import TraceAdapter.Host.Regex
import TraceAdapter.Host.Shell.Tool.Modes
import TraceAdapter.Host.Shell.Tool.Lines

/-!
# Searching lines

Lines that match an expression are found in texts.
-/

namespace TraceAdapter
namespace Shell
namespace Tool

/-!
## Matches
-/

structure Wanted where
  regex : Regex
  /-- Whether only whole words match, or whole lines. -/
  words : Bool
  whole : Bool

def Wanted.search? (w : Wanted) (t : Regex.Subject) (start : Nat) : Option Regex.Match :=
  let good (i j : Nat) : Bool :=
    if w.whole then i = 0 && j = t.chars.size
    else ! w.words || (! t.isWordBefore i && ! t.isWordAt j)
  (List.range (t.chars.size + 1 - start)).findSome? fun k =>
    Regex.matchAtWith? (good (start + k)) w.regex t (start + k)

def Wanted.isIn (w : Wanted) (line : List Char) : Bool :=
  (w.search? { chars := line.toArray } 0).isSome

/-- All matches in a line that are not empty, with their positions.  The fuel bounds
their number. -/
def Wanted.all (w : Wanted) (t : Regex.Subject) : Nat -> Nat -> List (Nat × List Char)
  | 0, _ => []
  | fuel + 1, start =>
      match w.search? t start with
      | none => []
      | some m =>
          if m.start = m.stop then
            if m.stop < t.chars.size then w.all t fuel (m.stop + 1) else []
          else (m.start, t.slice m.start m.stop) :: w.all t fuel m.stop

def plainClasses : List Char -> List Char
  | '\\' :: 'd' :: cs => "[0-9]".toList ++ plainClasses cs
  | '\\' :: 'D' :: cs => "[^0-9]".toList ++ plainClasses cs
  | '\\' :: 'h' :: cs => "[ \t]".toList ++ plainClasses cs
  | '\\' :: 't' :: cs => '\t' :: plainClasses cs
  | '\\' :: c :: cs => '\\' :: c :: plainClasses cs
  | '(' :: '?' :: ':' :: cs => '(' :: plainClasses cs
  | c :: cs => c :: plainClasses cs
  | [] => []

/-- What one of several expressions matches; one without any matches nothing. -/
def anyOf : List Regex -> Regex
  | [] => .oneOf false []
  | r :: rs => rs.foldl .either r

/-!
## Reports
-/

def grepOptions : Options :=
  .of "A:aB:bC:cD:d:Ee:Ff:GHhIiLlm:noPqRrsTUvVwxyZz0123456789"
    [("after-context=", "A"), ("before-context=", "B"), ("context=", "C"), ("count", "c"),
      ("extended-regexp", "E"), ("fixed-strings", "F"), ("basic-regexp", "G"),
      ("perl-regexp", "P"), ("regexp=", "e"), ("file=", "f"), ("ignore-case", "i"),
      ("no-ignore-case", "no-i"), ("invert-match", "v"), ("word-regexp", "w"),
      ("line-regexp", "x"), ("files-with-matches", "l"), ("files-without-match", "L"),
      ("max-count=", "m"), ("only-matching", "o"), ("quiet", "q"), ("silent", "q"),
      ("no-messages", "s"), ("byte-offset", "b"), ("with-filename", "H"),
      ("no-filename", "h"), ("label=", "label"), ("line-number", "n"), ("text", "a"),
      ("binary-files=", "binary"), ("recursive", "r"), ("dereference-recursive", "R"),
      ("include=", "include"), ("exclude=", "exclude"), ("exclude-dir=", "exclude-dir"),
      ("color=?", "color"), ("colour=?", "color"), ("null", "Z"), ("null-data", "z"),
      ("initial-tab", "T"), ("line-buffered", "buffered"), ("no-group-separator", "joined"),
      ("group-separator=", "separator"), ("directories=", "d")]

structure Found where
  number : Nat
  position : Nat
  line : List Char
  wanted : Bool

structure Report where
  output : List Char
  count : Nat

structure Showings where
  wanted : Wanted
  inverted : Bool
  most? : Option Nat
  before : Nat
  after : Nat
  separator? : Option (List Char)
  numbers : Bool
  positions : Bool
  onlyMatches : Bool
  named : Bool
  quiet : Bool
  ending : Char
  nameEnd? : Option Char

namespace Showings

/-- Lines with what is known of them, up to the last that is wanted where their number
is limited. -/
def classify (o : Showings) (ls : List (List Char)) : List Found :=
  let step (r : List Found × Nat × Nat × Nat) (line : List Char) :
      List Found × Nat × Nat × Nat :=
    let (found, number, position, count) := r
    let full := o.most?.any (· ≤ count)
    let wanted := ! full && (o.wanted.isIn line != o.inverted)
    (⟨number, position, line, wanted⟩ :: found, number + 1, position + line.length + 1,
      if wanted then count + 1 else count)
  (ls.foldl step ([], 1, 0, 0)).1.reverse

def front (o : Showings) (label : List Char) (sign : Char) (number position : Nat) :
    List Char :=
  (if o.named then label ++ [o.nameEnd?.getD sign] else []) ++
    (if o.numbers then digits number ++ [sign] else []) ++
    (if o.positions then digits position ++ [sign] else [])

def show_ (o : Showings) (label : List Char) (f : Found) : List Char :=
  let sign := if f.wanted then ':' else '-'
  if o.onlyMatches then
    if ! f.wanted ∨ o.inverted then []
    else
      (o.wanted.all { chars := f.line.toArray } (f.line.length + 1) 0).flatMap fun (i, text) =>
        o.front label sign f.number (f.position + i) ++ text ++ [o.ending]
  else o.front label sign f.number f.position ++ f.line ++ [o.ending]

/-- Which lines are shown: those that are wanted and those near them.  The first list is
of those before, the last one first. -/
def nearby (o : Showings) (found : List Found) : List (Found × Bool) :=
  let reach (n : Nat) (r : Nat × List Bool) (f : Found) : Nat × List Bool :=
    let left := if f.wanted then n + 1 else r.1
    (left - 1, (0 < left) :: r.2)
  let after := (found.foldl (reach o.after) (0, [])).2.reverse
  let before := (found.reverse.foldl (reach o.before) (0, [])).2
  (found.zip (after.zip before)).map fun (f, a, b) => (f, a || b)

def report (o : Showings) (label : List Char) (text : List Char) : Report :=
  let ls := pieces o.ending text
  let ls := ls.map fun l => if l.getLast? = some o.ending then l.dropLast else l
  let found := o.classify ls
  let count := found.countP fun f => f.wanted
  if o.quiet then { output := [], count }
  else if o.before = 0 ∧ o.after = 0 then
    { output := (found.filter fun f => f.wanted).flatMap (o.show_ label), count }
  else
    let step (r : List (List Char) × Option Nat) (e : Found × Bool) :
        List (List Char) × Option Nat :=
      if ! e.2 then r
      else
        let gap :=
          match r.2, o.separator? with
          | some last, some text => if last + 1 < e.1.number then text ++ ['\n'] else []
          | _, _ => []
        ((gap ++ o.show_ label e.1) :: r.1, some e.1.number)
    { output := ((o.nearby found).foldl step ([], none)).1.reverse.flatten, count }

end Showings

/-!
## Files
-/

/-- The files at and below a path, with the paths under which they are shown.  The fuel
bounds the depth. -/
def filesBelow (files : Files) (wanted : Bool -> List Char -> Bool) :
    Nat -> List Char -> List String -> List (List Char)
  | 0, _, _ => []
  | fuel + 1, path, place =>
      let names := (files.names place).eraseDups.mergeSort fun a b => a ≤ b
      names.flatMap fun n =>
        let name := Bytes.toChars (Utf8.encode n)
        let shownPath := if path.isEmpty then name else below path name
        match files.at? (place ++ [n]) with
        | some node =>
            if node.isDirectory then
              if wanted true name then filesBelow files wanted fuel shownPath (place ++ [n])
              else []
            else if node.isFile ∧ wanted false name then [shownPath]
            else []
        | none => []

/-- Read a text in which a wanted line is enough: no more is asked for once there is
one. -/
def readUntilFound (o : Showings) : Action (List Char) :=
  modifyGet fun s => s.readWith 0 fun cs =>
    let ls := pieces o.ending cs
    let whole := ls.filter fun l => l.getLast? = some o.ending
    let enough := o.most?.getD 1
    let count := (whole.filter fun l => o.wanted.isIn l.dropLast != o.inverted).length
    if enough ≤ count then (cs, some []) else (cs, none)

def patternsOf (g : Given) : Action (Except (List Char) (List (List Char) × List (List Char))) := do
  let mut patterns : List (List Char) := (g.values "e").flatMap (List.splitOn '\n')
  for path in g.values "f" do
    match ← readOperand path with
    | .ok text => patterns := patterns ++ lines text
    | .error e => return .error (path ++ ": ".toList ++ reason e)
  if g.has "e" || g.has "f" then return .ok (patterns, g.operands)
  match g.operands with
  | w :: rest => return .ok (w.splitOn '\n', rest)
  | [] => return .ok ([], [])

/-- The characters of a pattern for names, those behind a backslash standing for
themselves. -/
def markedPattern : List Char -> List Marked
  | '\\' :: c :: cs => (c, false) :: markedPattern cs
  | '[' :: '^' :: cs => ('[', true) :: ('!', true) :: markedPattern cs
  | c :: cs => (c, true) :: markedPattern cs
  | [] => []

def fitsPattern (pattern name : List Char) : Bool :=
  Wildcard.fitsAll (Wildcard.ofMarked (markedPattern pattern)) name

def matchesAny (patterns : List (List Char)) (name : List Char) : Bool :=
  patterns.any fun p => fitsPattern p name

def refuseGrep (name text : List Char) : Action Unit := do
  if ! text.isEmpty then warn name text
  modify fun s =>
    s.write 2 ("Usage: ".toList ++ name ++ " [OPTION]... PATTERNS [FILE]...\n".toList)
  refuseUsage name 2 []

/-- Search, with expressions of a kind unless options name another one. -/
def grepWith (kind? : Option Char) : Tool := fun _ name words => do
  match grepOptions.read (words.foldl (fun n w => n + w.length + 1) 1) words with
  | .error text => refuseGrep name text
  | .ok g =>
    match ← patternsOf g with
    | .error text => refuse name 2 text
    | .ok (patterns, operands) =>
        if ! g.has "e" ∧ ! g.has "f" ∧ g.operands.isEmpty then refuseGrep name []
        else
          let kind := ((g.last? ["E", "F", "G", "P"]).bind fun k => k.toList.head?).getD
            (kind?.getD 'G')
          let dialect : Regex.Dialect :=
            { extended := kind = 'E' || kind = 'P', ignoreCase := g.has "i" || g.has "y" }
          let compile (p : List Char) : Except String Regex :=
            if kind = 'F' then .ok (Regex.ofPlain dialect p)
            else if kind = 'P' then Regex.ofText dialect (plainClasses p)
            else Regex.ofText dialect p
          match patterns.mapM compile with
          | .error text => refuse name 2 text.toList
          | .ok regexes =>
              let deep := g.has "r" || g.has "R"
              let number (option : String) : Option Nat := (g.value? option).bind natural?
              let around :=
                let ds := (g.options.filterMap fun o => o.1.toList.head?).filter Char.isDigit
                (number "C").or (natural? ds)
              if g.has "m" ∧ (number "m").isNone then
                refuse name 2 "invalid max count".toList
                return
              for option in ["A", "B", "C"] do
                if let some w := g.value? option then
                  if (natural? w).isNone then
                    refuse name 2 (w ++ ": invalid context length argument".toList)
                    return
              let s ← get
              let isDirectory (w : List Char) : Bool := s.files.isDirectory (State.path w)
              let named :=
                match g.last? ["H", "h"] with
                | some "H" => true
                | some _ => false
                | none =>
                    1 < operands.length ||
                      (deep && (operands.isEmpty || operands.any isDirectory))
              let lists := g.has "l" || g.has "L"
              let o : Showings :=
                { wanted := ⟨anyOf regexes, g.has "w", g.has "x"⟩
                  inverted := g.has "v"
                  most? := number "m"
                  before := (number "B").getD (around.getD 0)
                  after := (number "A").getD (around.getD 0)
                  separator? :=
                    if g.has "joined" then none
                    else some ((g.value? "separator").getD ['-', '-'])
                  numbers := g.has "n", positions := g.has "b", onlyMatches := g.has "o"
                  named, quiet := g.has "q" || lists || g.has "c"
                  ending := if g.has "z" then Char.ofNat 0 else '\n'
                  nameEnd? := if g.has "Z" then some (Char.ofNat 0) else none }
              let chosen (directory : Bool) (n : List Char) : Bool :=
                if directory then ! matchesAny (g.values "exclude-dir") n
                else
                  (! g.has "include" || matchesAny (g.values "include") n) &&
                    ! matchesAny (g.values "exclude") n
              let targets :=
                if deep then
                  if operands.isEmpty then filesBelow s.files chosen treeDepth [] s.files.here
                  else
                    operands.flatMap fun w =>
                      match s.files.find (State.path w) with
                      | .ok place =>
                          if s.files.isDirectoryAt place then
                            filesBelow s.files chosen treeDepth w place
                          else [w]
                      | .error _ => [w]
                else if operands.isEmpty then [['-']] else operands
              let mut found := false
              let mut failed := false
              let mut first := true
              for w in targets do
                if (← get).goesOn ∧ ! (g.has "q" ∧ found) then
                  let early : Bool := g.has "q" || g.has "l" || g.has "m"
                  let read ←
                    if w = ['-'] then do
                      match (← get).readFault? 0 with
                      | some e => pure (Except.error e)
                      | none =>
                          let text ← if early then readUntilFound o else readInput
                          pure (Except.ok text)
                    else readPath w
                  let label :=
                    if w = ['-'] then (g.value? "label").getD "(standard input)".toList else w
                  match read with
                  | .error e =>
                      if ! g.has "s" then warn name (label ++ ": ".toList ++ reason e)
                      failed := true
                  | .ok text =>
                      let r := o.report label text
                      let hit := 0 < r.count
                      if hit then found := true
                      if ! g.has "q" then
                        if g.has "L" || g.has "l" then
                          if hit != g.has "L" then emit (label ++ [o.nameEnd?.getD '\n'])
                        else if g.has "c" then
                          emit ((if named then label ++ [o.nameEnd?.getD ':'] else []) ++
                            digits r.count ++ ['\n'])
                        else if text.contains (Char.ofNat 0) && ! g.has "a" && ! g.has "z" &&
                            hit && ! g.has "o" then
                          warn name (label ++ ": binary file matches".toList)
                        else if ! r.output.isEmpty then
                          let joint :=
                            if ! first && (0 < o.before || 0 < o.after) then
                              (o.separator?.map (· ++ ['\n'])).getD []
                            else []
                          emit (joint ++ r.output)
                          first := false
              answer (if failed ∧ ! (g.has "q" ∧ found) then 2 else if found then 0 else 1)

def grep : Tool := grepWith none

end Tool
end Shell
end TraceAdapter
