import TraceAdapter.Host.Shell.Tool.Options

/-!
# Tools

A tool is a program that scripts find on every system.  It is run under a name,
which its complaints begin with, and with words.
-/

namespace TraceAdapter
namespace Shell

def descriptorOf? (path : List Char) : Option Nat :=
  match String.ofList path with
  | "/dev/stdin" => some 0
  | "/dev/stdout" => some 1
  | "/dev/stderr" => some 2
  | _ =>
      if "/dev/fd/".toList.isPrefixOf path then natural? (path.drop 8)
      else if "/proc/self/fd/".toList.isPrefixOf path then natural? (path.drop 14)
      else none

/-- How a tool starts another program by its name, with words; why it cannot be
started, if it cannot. -/
abbrev Tool.Launcher := List Char -> List (List Char) -> Action (Option OsError)

abbrev Tool := Tool.Launcher -> List Char -> List (List Char) -> Action Unit

namespace Tool

/-!
## Complaints
-/

def warn (name text : List Char) : Action Unit :=
  modify fun s => s.write 2 (name ++ ": ".toList ++ text ++ ['\n'])

def refuse (name : List Char) (status : Nat) (text : List Char) : Action Unit := do
  warn name text
  answer status

def refuseUsage (name : List Char) (status : Nat) (text : List Char) : Action Unit := do
  if ! text.isEmpty then warn name text
  modify fun s =>
    s.write 2 ("Try '".toList ++ name ++ " --help' for more information.\n".toList)
  answer status

/-- Whether a character has a meaning of its own in scripts.  `first` says that it
stands in front. -/
def isSigned (first : Bool) (c : Char) : Bool :=
  " !\"$&()*;<=>[^|?\\'".toList.contains c || c = backquote || c.toNat < 32 ||
    c.toNat = 127 || (first && (c = '#' || c = '~'))

def inQuotes (cs : List Char) : List Char :=
  if cs.any fun c => c.toNat < 32 || 126 < c.toNat then
    let piece (c : Char) : List Char :=
      let shown :=
        if c = '\n' then "\\n".toList
        else if c = '\t' then "\\t".toList
        else '\\' :: (List.replicate (3 - (Nat.toDigits 8 c.toNat).length) '0' ++
          Nat.toDigits 8 c.toNat)
      if c.toNat < 32 ∨ 126 < c.toNat then "'$'".toList ++ shown ++ "''".toList else [c]
    let text := '\'' :: cs.flatMap piece ++ ['\'']
    if "''".toList.isSuffixOf text then text.take (text.length - 2) else text
  else if cs.contains '\'' then
    if cs.any fun c => "\"$\\!".toList.contains c || c = backquote then
      '\'' :: cs.flatMap (fun c => if c = '\'' then "'\\''".toList else [c]) ++ ['\'']
    else '"' :: cs ++ ['"']
  else '\'' :: cs ++ ['\'']

def shown (cs : List Char) : List Char :=
  match cs with
  | [] => inQuotes []
  | c :: rest =>
      if isSigned true c || rest.any (isSigned false) || cs.any (fun c => 126 < c.toNat) ||
          cs = ['\x7b'] || cs = ['\x7d'] then inQuotes cs
      else cs

def reason (e : OsError) : List Char := e.reason.toList

def refusePath (name : List Char) (status : Nat) (path : List Char) (e : OsError) :
    Action Unit :=
  refuse name status (shown path ++ ": ".toList ++ reason e)

/-!
## Words
-/

/-- Read the options of a tool and go on with what was given.  Its status is
`fault` when the words are no good. -/
def withOptions (name : List Char) (fault : Nat) (options : Options)
    (words : List (List Char)) (act : Given -> Action Unit) : Action Unit :=
  let size := words.foldl (fun n w => n + w.length + 1) 1
  match options.read size words with
  | .error text => refuseUsage name fault text
  | .ok given =>
      if given.has "help" then do
        modify fun s =>
          s.write 1 ("Usage: ".toList ++ name ++ " [OPTION]... [ARGUMENT]...\n".toList)
        answer 0
      else if given.has "version" then do
        modify fun s => s.write 1 (name ++ " 9.1\n".toList)
        answer 0
      else act given

/-- Complain that an operand is missing, or missing after another one, or too
much. -/
def missingOperand (name : List Char) (after? : Option (List Char)) : Action Unit :=
  refuseUsage name 1
    (match after? with
    | none => "missing operand".toList
    | some w => "missing operand after ".toList ++ inQuotes w)

def extraOperand (name w : List Char) : Action Unit :=
  refuseUsage name 1 ("extra operand ".toList ++ inQuotes w)

/-!
## Reading and writing
-/

/-- Write to the standard output and answer with a status, or with the status of a
fault when nothing can be written. -/
def finish (name : List Char) (status fault : Nat) (text : List Char) : Action Unit := do
  let s ← get
  match if text.isEmpty then none else s.writeFault? 1 with
  | some e => refuse name fault ("write error: ".toList ++ reason e)
  | none =>
      modify fun s => s.write 1 text
      answer status

def emit (text : List Char) : Action Unit := modify fun s => s.write 1 text

def readInput : Action (List Char) := modifyGet fun s => s.readAll 0

def readPath (path : List Char) : Action (Except OsError (List Char)) := do
  let s ← get
  let through (descriptor : Nat) : Action (Except OsError (List Char)) := do
    match s.readFault? descriptor with
    | some e => return .error e
    | none => return .ok (← modifyGet fun s => s.readAll descriptor)
  match descriptorOf? path with
  | some d => through d
  | none =>
      match s.files.lookup (State.path path) with
      | .error e => return .error e
      | .ok node =>
          match node.content with
          | .directory => return .error .isADirectory
          | .device .null => return .ok []
          | .device .terminal => return .error .noDevice
          | .device _ =>
              set { s with starved := true }
              return .ok (List.replicate (s.patience + 1) (Char.ofNat 0))
          | _ => return .ok (Bytes.toChars node.bytes)

def readOperand (w : List Char) : Action (Except OsError (List Char)) := do
  if w = ['-'] then
    match (← get).readFault? 0 with
    | some e => return .error e
    | none => return .ok (← readInput)
  else readPath w

/-- Go through the texts of operands, or the standard input when there are none.
Those that cannot be read are complained of, and the status is one then. -/
def forTexts (name : List Char) (operands : List (List Char))
    (act : List Char -> List Char -> Action Unit) : Action Unit := do
  let mut status := 0
  for w in if operands.isEmpty then [['-']] else operands do
    match ← readOperand w with
    | .ok text => act w text
    | .error e =>
        warn name (shown w ++ ": ".toList ++ reason e)
        status := 1
  answer status

def textOf (name : List Char) (operands : List (List Char)) :
    Action (List Char) := do
  let mut texts : List (List Char) := []
  let mut status := 0
  for w in if operands.isEmpty then [['-']] else operands do
    match ← readOperand w with
    | .ok text => texts := text :: texts
    | .error e =>
        warn name (shown w ++ ": ".toList ++ reason e)
        status := 1
  answer status
  return texts.reverse.flatten

/-- Put a text at a path, after what is there when it is appended; why that cannot
be done, if it cannot. -/
def store (path text : List Char) (appends : Bool) : Action (Option OsError) := do
  let s ← get
  let bytes := Bytes.ofChars text
  match descriptorOf? path with
  | some d =>
      match s.writeFault? d with
      | some e => return some e
      | none =>
          set (s.write d text)
          return none
  | none =>
      match s.files.reach true (State.path path) with
      | .error e => return some e
      | .ok (.absent place) =>
          if path.getLast? = some '/' then return some .isADirectory
          let node : Node := { content := .file bytes, mode := 0o666 &&& (0o777 - s.mask) }
          set { s with files := s.files.put place node }
          return none
      | .ok (.present place) =>
          match s.files.at? place with
          | none => return some .notFound
          | some node =>
              match node.content with
              | .directory => return some .isADirectory
              | .device .full => return some .noSpace
              | .device _ => return none
              | _ =>
                  let bytes := if appends then node.bytes ++ bytes else bytes
                  match s.files.number? place with
                  | some n => set { s with files := s.files.rewrite n bytes }
                  | none =>
                      set { s with
                        files := s.files.put place { node with content := .file bytes } }
                  return none

/-!
## Lines
-/

/-- The pieces of a text that end in a character, the last one perhaps without
it. -/
def pieces (ending : Char) (cs : List Char) : List (List Char) :=
  let step (c : Char) (ps : List (List Char)) : List (List Char) :=
    if c = ending then [c] :: ps
    else
      match ps with
      | p :: rest =>
          (c :: p) :: rest
      | [] => [[c]]
  cs.foldr step []

def lines (cs : List Char) : List (List Char) :=
  let all := cs.splitOn '\n'
  if all.getLast? = some [] then all.dropLast else all

def unlines (ls : List (List Char)) : List Char := ls.flatMap (· ++ ['\n'])

def isBlank (c : Char) : Bool := c = ' ' || c = '\t'

def isSpace (c : Char) : Bool := c = ' ' || ('\t' ≤ c && c ≤ '\r')

def lastPart (w : List Char) : List Char :=
  let trimmed := (w.reverse.dropWhile (· = '/')).reverse
  if trimmed.isEmpty then (if w.isEmpty then [] else ['/'])
  else (trimmed.reverse.takeWhile (· ≠ '/')).reverse

def frontPart (w : List Char) : List Char :=
  let trimmed := (w.reverse.dropWhile (· = '/')).reverse
  if trimmed.isEmpty then (if w.isEmpty then ['.'] else ['/'])
  else
    match trimmed.reverse.dropWhile (· ≠ '/') with
    | [] => ['.']
    | front =>
        match (front.dropWhile (· = '/')).reverse with
        | [] => ['/']
        | cs => cs

def below (directory name : List Char) : List Char :=
  if directory.getLast? = some '/' then directory ++ name else directory ++ '/' :: name

end Tool
end Shell
end TraceAdapter
