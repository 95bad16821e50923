import TraceAdapter.Host.Regex
import TraceAdapter.Host.Shell.Tool.Sets

/-!
# Edit scripts

A script says what is done to each line of a text: commands of one letter, each for
the lines that an address in front of it chooses.
-/

namespace TraceAdapter
namespace Shell
namespace Edit

/-!
## Scripts
-/

/-- Which lines a command is for.  An expression that is left out is the one used
last. -/
inductive Address where
  | line (n : Nat)
  | last
  | regex (r? : Option Regex)
  | every (first step : Nat)
  deriving Repr

inductive RangeEnd where
  | address (a : Address)
  | after (n : Nat)
  | multiple (n : Nat)
  deriving Repr

inductive Replacement where
  | text (cs : List Char)
  | group (number : Nat)
  | large
  | small
  | plain
  | largeNext
  | smallNext
  deriving Repr

structure Exchange where
  regex? : Option Regex
  replacement : List Replacement
  number : Nat
  all : Bool
  prints : Bool
  path? : Option (List Char)
  deriving Repr

inductive Command where
  /-- Commands up to a place in the script are only for some lines. -/
  | block (stop : Nat)
  | nothing
  | number
  | append (text : List Char)
  | insert (text : List Char)
  | change (text : List Char)
  /-- Go on at a label, or at the end of the script; perhaps only after an exchange, or
  only without one. -/
  | jump (label : List Char) (after? : Option Bool)
  | delete
  | deleteFirst
  | get (appends : Bool)
  | hold (appends : Bool)
  | exchangeHold
  | list (width? : Option Nat)
  | next
  | nextAppended
  | print
  | printFirst
  | quit (prints : Bool) (status : Nat)
  | readFile (path : List Char)
  | readLine (path : List Char)
  | write (path : List Char)
  | writeFirst (path : List Char)
  | exchange (e : Exchange)
  | translate (pairs : List (Char × Char))
  | zap
  | name
  deriving Repr

structure Step where
  first? : Option Address := none
  second? : Option RangeEnd := none
  negated : Bool := false
  command : Command
  deriving Repr

structure Script where
  steps : Array Step := #[]
  labels : List (List Char × Nat) := []

/-!
## Reading
-/

structure Fault where
  text : String
  /-- How many characters are left, none when that does not matter. -/
  left? : Option Nat

abbrev Parsed (α : Type) := Except Fault (α × List Char)

def fault {α : Type} (text : String) (rest : List Char) : Except Fault α :=
  .error ⟨text, some rest.length⟩

def skipBlanks (cs : List Char) : List Char := cs.dropWhile Tool.isBlank

inductive Inside where
  | nothing
  | bracket (read : Nat)
  | kind (sign : Char)
  deriving DecidableEq

def Inside.after (brackets : Bool) (i : Inside) (c : Char) (rest : List Char) : Inside :=
  match i with
  | .nothing => if brackets ∧ c = '[' then .bracket 0 else .nothing
  | .bracket n =>
      if c = ']' ∧ 0 < n then .nothing
      else if c = '^' ∧ n = 0 then .bracket 0
      else if c = '[' ∧ (rest.head?.any fun d => d = ':' || d = '.' || d = '=') then
        .kind (rest.headD ':')
      else .bracket (n + 1)
  | .kind sign => if c = sign ∧ rest.head? = some ']' then .bracket 0 else .kind sign

/-- The characters of an expression up to its end, a sign that stands neither behind a
backslash nor, if that counts, in brackets. -/
def spanRegex (brackets : Bool) (sign : Char) :
    Inside -> List Char -> Option (List Char × List Char)
  | _, [] => none
  | i, '\\' :: c :: cs =>
      (spanRegex brackets sign (if i = .nothing then i else .bracket 1) cs).map
        fun (front, rest) =>
          if c = sign then (c :: front, rest)
          else if c = 'n' then ('\n' :: front, rest)
          else if c = '\n' then ('\n' :: front, rest)
          else ('\\' :: c :: front, rest)
  | i, c :: cs =>
      if c = sign ∧ i = .nothing then some ([], cs)
      else if c = '\n' then none
      else
        (spanRegex brackets sign (i.after brackets c cs) cs).map
          fun (front, rest) => (c :: front, rest)

def spanReplacement (sign : Char) : List Char -> Option (List Char × List Char)
  | [] => none
  | '\\' :: c :: cs =>
      (spanReplacement sign cs).map fun (front, rest) =>
        if c = sign ∧ c ≠ '&' then (c :: front, rest) else ('\\' :: c :: front, rest)
  | c :: cs =>
      if c = sign then some ([], cs)
      else if c = '\n' then none
      else (spanReplacement sign cs).map fun (front, rest) => (c :: front, rest)

def numbered (base most : Nat) (cs : List Char) : Option (Char × List Char) :=
  let ds := (cs.take most).takeWhile fun c => (Numeral.digit? base c).isSome
  (Numeral.ofDigits? base ds).map fun n => (Char.ofNat (n % 256), cs.drop ds.length)

/-- The character that a letter behind a backslash and digits stand for, and what
follows them. -/
def codeOf? (c : Char) (cs : List Char) : Option (Char × List Char) :=
  if c = 'x' then numbered 16 2 cs
  else if c = 'o' then numbered 8 3 cs
  else if c = 'd' then numbered 10 3 cs
  else none

/-- An expression with the numbers of characters replaced by them.  The fuel bounds the
characters. -/
def withoutCodes : Nat -> List Char -> List Char
  | fuel + 1, '\\' :: c :: cs =>
      match codeOf? c cs with
      | some (d, rest) =>
          if "*.[]\\^$/".toList.contains d then '\\' :: d :: withoutCodes fuel rest
          else d :: withoutCodes fuel rest
      | none => '\\' :: c :: withoutCodes fuel cs
  | fuel + 1, c :: cs => c :: withoutCodes fuel cs
  | _, cs => cs

def withoutEscapes : List Char -> List Char
  | '\\' :: 't' :: cs => '\t' :: withoutEscapes cs
  | '\\' :: 'r' :: cs => '\r' :: withoutEscapes cs
  | '\\' :: 'f' :: cs => Char.ofNat 12 :: withoutEscapes cs
  | '\\' :: 'v' :: cs => Char.ofNat 11 :: withoutEscapes cs
  | '\\' :: 'a' :: cs => Char.ofNat 7 :: withoutEscapes cs
  | '\\' :: c :: cs => '\\' :: c :: withoutEscapes cs
  | c :: cs => c :: withoutEscapes cs
  | [] => []

def addChar (c : Char) : List Replacement -> List Replacement
  | .text cs :: rest => .text (c :: cs) :: rest
  | parts => .text [c] :: parts

/-- The parts of a replacement.  The fuel bounds the characters. -/
def readReplacement : Nat -> List Char -> List Replacement
  | 0, _ => []
  | _, [] => []
  | fuel + 1, '\\' :: c :: cs =>
      match codeOf? c cs with
      | some (d, rest) => addChar d (readReplacement fuel rest)
      | none =>
          let rest := readReplacement fuel cs
          if c.isDigit then .group (c.toNat - 48) :: rest
          else
            match c with
            | 'n' => addChar '\n' rest
            | 't' => addChar '\t' rest
            | 'r' => addChar '\r' rest
            | 'f' => addChar (Char.ofNat 12) rest
            | 'v' => addChar (Char.ofNat 11) rest
            | 'a' => addChar (Char.ofNat 7) rest
            | 'L' => .small :: rest
            | 'U' => .large :: rest
            | 'E' => .plain :: rest
            | 'l' => .smallNext :: rest
            | 'u' => .largeNext :: rest
            | _ => addChar c rest
  | fuel + 1, '&' :: cs => .group 0 :: readReplacement fuel cs
  | fuel + 1, c :: cs => addChar c (readReplacement fuel cs)

/-- Read an expression in a dialect; an empty one stands for the one used last. -/
def compile (d : Regex.Dialect) (cs rest : List Char) : Except Fault (Option Regex) :=
  if cs.isEmpty then .ok none
  else
    match Regex.ofText d (withoutEscapes (withoutCodes (cs.length + 1) cs)) with
    | .ok r => .ok (some r)
    | .error text => fault text rest

/-- Read an address, none when there is none. -/
def readAddress (d : Regex.Dialect) (cs : List Char) : Parsed (Option Address) :=
  let regex (sign : Char) (cs : List Char) : Parsed (Option Address) :=
    match spanRegex true sign .nothing cs with
    | none => fault "unterminated address regex" []
    | some (text, rest) =>
        let (flags, rest) := rest.span fun c => c = 'I' || c = 'M'
        let d : Regex.Dialect := { d with ignoreCase := d.ignoreCase || flags.contains 'I' }
        (compile d text rest).map fun r? => (some (.regex r?), skipBlanks rest)
  match cs with
  | '$' :: rest => .ok (some .last, skipBlanks rest)
  | '/' :: rest => regex '/' rest
  | '\\' :: sign :: rest => regex sign rest
  | c :: _ =>
      if c.isDigit then
        let (ds, rest) := cs.span Char.isDigit
        let n := (natural? ds).getD 0
        match skipBlanks rest with
        | '~' :: rest =>
            let (steps, rest) := (skipBlanks rest).span Char.isDigit
            .ok (some (.every n ((natural? steps).getD 0)), skipBlanks rest)
        | rest => .ok (some (.line n), rest)
      else .ok (none, cs)
  | [] => .ok (none, cs)

def readRangeEnd (d : Regex.Dialect) (cs : List Char) : Parsed RangeEnd :=
  let cs := skipBlanks cs
  let counted (make : Nat -> RangeEnd) (rest : List Char) : Parsed RangeEnd :=
    let (ds, rest) := rest.span Char.isDigit
    .ok (make ((natural? ds).getD 0), skipBlanks rest)
  match cs with
  | '+' :: rest => counted .after rest
  | '~' :: rest => counted .multiple rest
  | _ =>
      match readAddress d cs with
      | .error e => .error e
      | .ok (some a, rest) => .ok (.address a, rest)
      | .ok (none, rest) => fault "unexpected `,'" (rest.drop 1)

def readEnd (cs : List Char) : Parsed Unit :=
  match skipBlanks cs with
  | [] => .ok ((), [])
  | c :: rest =>
      if c = '\n' ∨ c = ';' then .ok ((), rest)
      else if c = '#' ∨ c = '\x7d' then .ok ((), c :: rest)
      else fault "extra characters after command" rest

def readPath (cs : List Char) : Parsed (List Char) :=
  let (path, rest) := (skipBlanks cs).span (· ≠ '\n')
  if path.isEmpty then fault "missing filename in r/R/w/W commands" rest
  else .ok (path, rest.drop 1)

/-- A label, up to a blank, the end of the line, a semicolon or, where a block may end, a
brace. -/
def readLabel (inBlock : Bool) (cs : List Char) : List Char × List Char :=
  (skipBlanks cs).span fun c =>
    ! Tool.isSpace c && c ≠ ';' && ! (inBlock && c = '\x7d')

def spanText : List Char -> List Char × List Char
  | [] => (['\n'], [])
  | '\\' :: c :: cs =>
      let (text, rest) := spanText cs
      if c = '\n' then ('\n' :: text, rest) else ('\\' :: c :: text, rest)
  | ['\\'] => (['\n'], [])
  | '\n' :: cs => (['\n'], cs)
  | c :: cs =>
      let (text, rest) := spanText cs
      (c :: text, rest)

def plainText (cs : List Char) : List Char :=
  (readReplacement (cs.length + 1) (cs.flatMap fun c => if c = '&' then ['\\', '&'] else [c])).flatMap
    fun part =>
      match part with
      | .text cs => cs
      | .group n => digits n
      | _ => []

def readText (cs : List Char) : Parsed (List Char) :=
  let finish (cs : List Char) : Parsed (List Char) :=
    let (text, rest) := spanText cs
    .ok (plainText text, rest)
  match skipBlanks cs with
  | [] => fault "expected \\ after `a', `c' or `i'" []
  | ['\\'] => .ok ([], [])
  | '\\' :: rest =>
      match skipBlanks rest with
      | '\n' :: rest => if rest.isEmpty then .ok ([], []) else finish rest
      | [] => .ok ([], [])
      | _ => finish rest
  | '\n' :: _ => fault "expected \\ after `a', `c' or `i'" (skipBlanks cs).tail
  | rest => finish rest

structure Flags where
  number? : Option Nat := none
  counting : Bool := false
  all : Bool := false
  prints : Bool := false
  ignoreCase : Bool := false
  path? : Option (List Char) := none

def readFlags (f : Flags) : List Char -> Parsed Flags
  | [] => .ok (f, [])
  | c :: cs =>
      match c with
      | 'g' =>
          if f.all then fault "multiple `g' options to `s' command" cs
          else readFlags { f with all := true } cs
      | 'p' =>
          if f.prints then fault "multiple `p' options to `s' command" cs
          else readFlags { f with prints := true } cs
      | 'i' => readFlags { f with ignoreCase := true } cs
      | 'I' => readFlags { f with ignoreCase := true } cs
      | 'm' => readFlags f cs
      | 'M' => readFlags f cs
      | 'w' => (readPath cs).map fun (path, rest) => ({ f with path? := some path }, rest)
      | ' ' => readFlags { f with counting := false } cs
      | '\t' => readFlags { f with counting := false } cs
      | '\n' => .ok (f, cs)
      | ';' => .ok (f, cs)
      | '#' => .ok (f, c :: cs)
      | '\x7d' => .ok (f, c :: cs)
      | _ =>
          if c.isDigit then
            match f.number? with
            | none =>
                if c = '0' then fault "number option to `s' command may not be zero" cs
                else readFlags { f with number? := some (c.toNat - 48), counting := true } cs
            | some n =>
                if ! f.counting then fault "multiple number options to `s' command" cs
                else readFlags { f with number? := some (n * 10 + (c.toNat - 48)) } cs
          else fault "unknown option to `s'" cs

def groupCount : Regex -> Nat
  | .group n r => max n (groupCount r)
  | .both a b => max (groupCount a) (groupCount b)
  | .either a b => max (groupCount a) (groupCount b)
  | .times r _ _ => groupCount r
  | _ => 0

def readExchange (d : Regex.Dialect) (cs : List Char) : Parsed Exchange :=
  match cs with
  | [] => fault "unterminated `s' command" []
  | sign :: cs =>
      match spanRegex true sign .nothing cs with
      | none => fault "unterminated `s' command" []
      | some (pattern, rest) =>
          match spanReplacement sign rest with
          | none => fault "unterminated `s' command" []
          | some (text, rest) =>
              match readFlags {} rest with
              | .error e => .error e
              | .ok (f, rest) =>
                  let d : Regex.Dialect :=
                    { d with ignoreCase := d.ignoreCase || f.ignoreCase }
                  match compile d pattern rest with
                  | .error e => .error e
                  | .ok regex? =>
                      let replacement := readReplacement (text.length + 1) text
                      let largest := replacement.foldl
                        (fun n p => match p with
                          | .group m => max n m
                          | _ => n) 0
                      if regex?.any fun r => groupCount r < largest then
                        fault ("invalid reference \\" ++ Numeral.decimal largest ++
                          " on `s' command's RHS") rest
                      else
                        .ok ({ regex?, replacement, number := f.number?.getD 1, all := f.all
                               prints := f.prints, path? := f.path? }, rest)

def plainChars : List Char -> List Char
  | '\\' :: '\\' :: cs => '\\' :: plainChars cs
  | '\\' :: 'n' :: cs => '\n' :: plainChars cs
  | '\\' :: 't' :: cs => '\t' :: plainChars cs
  | c :: cs => c :: plainChars cs
  | [] => []

def readTranslation (cs : List Char) : Parsed (List (Char × Char)) :=
  match cs with
  | [] => fault "unterminated `y' command" []
  | sign :: cs =>
      match spanRegex false sign .nothing cs with
      | none => fault "unterminated `y' command" []
      | some (first, rest) =>
          match spanRegex false sign .nothing rest with
          | none => fault "unterminated `y' command" []
          | some (second, rest) =>
              let first := plainChars first
              let second := plainChars second
              if first.length ≠ second.length then
                fault "strings for `y' command are different lengths" rest
              else (readEnd rest).map fun (_, rest) => (first.zip second, rest)

def readCommand (d : Regex.Dialect) (c : Char) (cs : List Char) : Parsed Command :=
  let simple (command : Command) : Parsed Command :=
    (readEnd cs).map fun (_, rest) => (command, rest)
  let counted (make : Option Nat -> Command) : Parsed Command :=
    let (ds, rest) := (skipBlanks cs).span Char.isDigit
    (readEnd rest).map fun (_, rest) => (make (natural? ds), rest)
  let texted (make : List Char -> Command) : Parsed Command :=
    (readText cs).map fun (text, rest) => (make text, rest)
  let filed (make : List Char -> Command) : Parsed Command :=
    (readPath cs).map fun (path, rest) => (make path, rest)
  let jumping (after? : Option Bool) : Parsed Command :=
    let (label, rest) := readLabel true cs
    .ok (.jump label after?, rest)
  match c with
  | '=' => simple .number
  | 'a' => texted .append
  | 'i' => texted .insert
  | 'c' => texted .change
  | 'b' => jumping none
  | 't' => jumping (some true)
  | 'T' => jumping (some false)
  | 'd' => simple .delete
  | 'D' => simple .deleteFirst
  | 'g' => simple (.get false)
  | 'G' => simple (.get true)
  | 'h' => simple (.hold false)
  | 'H' => simple (.hold true)
  | 'x' => simple .exchangeHold
  | 'l' => counted .list
  | 'n' => simple .next
  | 'N' => simple .nextAppended
  | 'p' => simple .print
  | 'P' => simple .printFirst
  | 'q' => counted fun n? => .quit true (n?.getD 0)
  | 'Q' => counted fun n? => .quit false (n?.getD 0)
  | 'r' => filed .readFile
  | 'R' => filed .readLine
  | 'w' => filed .write
  | 'W' => filed .writeFirst
  | 's' => (readExchange d cs).map fun (e, rest) => (.exchange e, rest)
  | 'y' => (readTranslation cs).map fun (pairs, rest) => (.translate pairs, rest)
  | 'z' => simple .zap
  | 'F' => simple .name
  | 'v' => .ok (.nothing, (readLabel false cs).2)
  | _ => fault (String.ofList ("unknown command: `".toList ++ [c, '\''])) cs

/-- What has been read: the steps, the last one first, the labels and the places of the
blocks that are open. -/
structure Reading where
  steps : List Step := []
  labels : List (List Char × Nat) := []
  blocks : List Nat := []

def Reading.close (r : Reading) (start : Nat) (blocks : List Nat) : Reading :=
  let count := r.steps.length
  { r with
    blocks
    steps := { command := .nothing } :: r.steps.mapIdx fun i step =>
      if i + start + 1 = count then { step with command := .block (count + 1) } else step }

def readStep (d : Regex.Dialect) (r : Reading) (cs : List Char) :
    Except Fault (Reading × List Char) :=
  match readAddress d cs with
  | .error e => .error e
  | .ok (first?, rest) =>
      let second : Parsed (Option RangeEnd) :=
        match first?, rest with
        | some _, ',' :: rest => (readRangeEnd d rest).map fun (e, rest) => (some e, rest)
        | _, _ => .ok (none, rest)
      match second with
      | .error e => .error e
      | .ok (second?, rest) =>
          let isZero := first? matches some (.line 0)
          let isRegexEnd := second? matches some (.address (.regex _))
          let (negated, rest) : Bool × List Char :=
            match rest with
            | '!' :: rest => (true, skipBlanks rest)
            | _ => (false, rest)
          match rest with
          | [] => if isZero then fault "invalid usage of line address 0" []
              else fault "missing command" []
          | c :: cs =>
              if isZero ∧ ! isRegexEnd then fault "invalid usage of line address 0" cs
              else if negated ∧ c = '!' then fault "multiple `!'s" cs
              else if c = '\x7b' then
                .ok ({ r with
                  steps := { first?, second?, negated, command := .block 0 } :: r.steps
                  blocks := r.steps.length :: r.blocks }, cs)
              else if c = '\x7d' then
                match r.blocks with
                | [] => fault "unexpected `\x7d'" cs
                | start :: blocks =>
                    if first?.isSome then fault "\x7d doesn't want any addresses" cs
                    else (readEnd cs).map fun (_, rest) => (r.close start blocks, rest)
              else if c = '#' then fault "comments don't accept any addresses" cs
              else if c = ':' then
                let (label, rest) := readLabel false cs
                if first?.isSome then fault ": doesn't want any addresses" cs
                else if label.isEmpty then fault "\":\" lacks a label" rest
                else .ok ({ r with labels := (label, r.steps.length) :: r.labels }, rest)
              else
                (readCommand d c cs).map fun (command, rest) =>
                  ({ r with steps := { first?, second?, negated, command } :: r.steps }, rest)

/-- Read steps.  The fuel bounds their number. -/
def readSteps (d : Regex.Dialect) : Nat -> Reading -> List Char -> Except Fault Reading
  | 0, r, _ => .ok r
  | fuel + 1, r, cs =>
      match cs.dropWhile fun c => Tool.isSpace c || c = ';' with
      | [] => .ok r
      | '#' :: cs => readSteps d fuel r (cs.dropWhile (· ≠ '\n'))
      | cs =>
          match readStep d r cs with
          | .error e => .error e
          | .ok (r, rest) => readSteps d fuel r rest

def lostLabel? (r : Reading) : Option (List Char) :=
  r.steps.findSome? fun step =>
    match step.command with
    | .jump label _ =>
        if label.isEmpty || (r.labels.lookup label).isSome then none else some label
    | _ => none

def Script.ofText (d : Regex.Dialect) (cs : List Char) : Except (List Char) Script :=
  let at_ (n : Nat) (text : String) : Except (List Char) Script :=
    .error
      ("-e expression #1, char ".toList ++ digits n ++ ": ".toList ++ text.toList)
  match readSteps d (cs.length + 1) {} cs with
  | .error e => at_ ((e.left?.map fun n => cs.length - n).getD 0) e.text
  | .ok r =>
      if ! r.blocks.isEmpty then at_ 0 "unmatched `\x7b'"
      else
        match lostLabel? r with
        | some label =>
            .error ("can't find label for jump to `".toList ++ label ++ ['\''])
        | none => .ok { steps := r.steps.reverse.toArray, labels := r.labels }

end Edit
end Shell
end TraceAdapter
