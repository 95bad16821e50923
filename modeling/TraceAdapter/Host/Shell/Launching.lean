import TraceAdapter.Host.Shell.Subshell
import TraceAdapter.Host.Shell.Tool

/-!
# Launching programs

A program is found by its path, or by its name in one of the directories that are
searched, and is run in a process of its own.  A file that may be run and is no
program is read as a script.
-/

namespace TraceAdapter
namespace Shell

/-- The directories that are searched unless something else is asked for. -/
def usualPath : List Char :=
  "/usr/local/sbin:/usr/local/bin:/usr/sbin:/usr/bin:/sbin:/bin".toList

def startingValues : List (List Char × List Char) :=
  [("OPTIND".toList, ['1']), ("PS1".toList, ['#', ' ']), ("PS2".toList, ['>', ' ']),
    ("PS4".toList, ['+', ' ']), ("PPID".toList, ['1']), ("IFS".toList, [' ', '\t', '\n'])]

def firstEnvironment : List (List Char × List Char) :=
  [("PATH".toList, usualPath), ("HOME".toList, "/root".toList)]

def startTime : Int := 10

def State.start (files : Files) (name : List Char) : State where
  files := { files with clock := files.clock + startTime }
  name := name
  arguments := []
  directory := Builtin.pathOfPlace files.here
  bindings :=
    ("PWD".toList, Builtin.pathOfPlace files.here) :: firstEnvironment ++ startingValues
  exported := "PWD".toList :: firstEnvironment.map Prod.fst

/-!
## Shells
-/

inductive Invocation where
  | text (script : List Char)
  | file (name : List Char)
  | input

/-- Read the words after the name of a shell: its options, what it runs and the
arguments. -/
def readInvocation (s : State) (words : List (List Char)) :
    Except (List Char) (State × Invocation) :=
  let isCommand (w : List Char) : Bool :=
    w.head? = some '-' && w.contains 'c' && w.head? ≠ w[1]?
  let options := words.takeWhile fun w =>
    (w.head? = some '-' || w.head? = some '+') && w ≠ ['-', '-'] && w ≠ ['-']
  let hasText := options.any isCommand
  let strip (w : List Char) : List (List Char) :=
    if isCommand w then
      match w.filter (· ≠ 'c') with
      | [_] => []
      | rest => [rest]
    else [w]
  match Builtin.readOptions (options.flatMap strip ++ words.drop options.length) s with
  | .error option => .error ("Illegal option ".toList ++ option)
  | .ok (s, rest, _) =>
      if hasText then
        match rest with
        | [] => .error "-c requires an argument".toList
        | script :: rest =>
            .ok ({ s with name := rest.headD s.name, arguments := rest.tail },
              .text script)
      else
        match rest with
        | name :: arguments =>
            if s.has 's' then .ok ({ s with arguments := rest }, .input)
            else .ok ({ s with name, arguments }, .file name)
        | [] => .ok (s, .input)

def State.renewed (s : State) (name : List Char) : State :=
  let passed := s.environment.filter fun b => ! (startingValues.map Prod.fst).contains b.1
  { s with
    name
    arguments := []
    line := 1
    bindings :=
      passed ++ startingValues ++
        (if passed.any fun b => b.1 = "PATH".toList then [] else [("PATH".toList, usualPath)])
    exported := passed.map Prod.fst
    locked := []
    functions := []
    aliases := []
    options := []
    status := 0
    answer? := none
    loops := 0
    heading := []
    locals := []
    traps := s.traps.filter fun t => t.2.isEmpty
    pending := []
    jobs := []
    scanned := (1, none) }

def runShell (run : Runner) (words : List (List Char)) : Action Unit := do
  let s ← get
  let refuse (text : List Char) : Action Unit := do
    set { s with line := 0 }
    modify fun s => s.fail text
  match readInvocation s words with
  | .error text => refuse text
  | .ok (t, invocation) =>
      match invocation with
      | .text script =>
          set t
          runText run false script
      | .input =>
          let (script, t) := t.readAll 0
          set t
          runFile run false script
      | .file name =>
          match s.files.read (State.path name) with
          | .ok bytes =>
              set t
              runFile run false (Bytes.toChars bytes)
          | .error .isADirectory => set t
          | .error e =>
              refuse ("cannot open ".toList ++ name ++ ": ".toList ++ openFault e)
      runLast run

def shells : List String := ["dash", "bash"]

/-!
## Programs
-/

def interpreter? (bytes : List UInt8) : Option (List Char × List (List Char)) :=
  match Bytes.toChars (bytes.take 256) with
  | '#' :: '!' :: cs =>
      let line := (cs.takeWhile (· ≠ '\n')).dropWhile Tool.isBlank
      let name := line.takeWhile fun c => ! Tool.isBlank c
      let rest := (line.drop name.length).dropWhile Tool.isBlank
      let rest := (rest.reverse.dropWhile Tool.isBlank).reverse
      if name.isEmpty then none else some (name, if rest.isEmpty then [] else [rest])
  | _ => none

def runProgram (run : Runner) (launch : Tool.Launcher) (program : String)
    (name : List Char) (words : List (List Char)) : Action Unit :=
  inProcess do
    if shells.contains program then
      modify fun s => s.renewed name
      runShell run words
    else
      match Tool.find? program with
      | some tool =>
          modify fun s => { s with status := 0, traps := [], heading := [] }
          tool launch name words
      | none => Tool.refuse name 1 "not supported".toList

def isAbsence (e : OsError) : Bool := e = .notFound || e = .notADirectory

def searchPaths (s : State) (name : List Char) : List (List Char) :=
  if name.contains '/' then [name]
  else
    (((s.lookup? "PATH".toList).getD []).splitOn ':').map fun d =>
      if d.isEmpty then "./".toList ++ name else Tool.below d name

def firstFile (files : Files) : List (List Char) -> Except OsError (List Char)
  | [] => .error .notFound
  | path :: paths =>
      match files.lookup (State.path path) with
      | .ok node =>
          if node.isFile then .ok path
          else
            match firstFile files paths with
            | .error _ => .error .permissionDenied
            | found => found
      | .error e =>
          match firstFile files paths with
          | .error other => .error (if isAbsence e then other else e)
          | found => found

/-- Run the file at a path under a name and with words; why that cannot be done, if
it cannot.  The fuel bounds how often a script names another program. -/
def launchFile (run : Runner) (launch : Tool.Launcher) :
    Nat -> List Char -> List Char -> List (List Char) -> Action (Option OsError)
  | 0, _, _, _ => return some .linksTooDeep
  | fuel + 1, path, name, words => do
      match (← get).files.lookup (State.path path) with
      | .error e => return some e
      | .ok node =>
          if ! node.isRunnable then return some .permissionDenied
          match node.content with
          | .program program =>
              runProgram run launch program name words
              return none
          | .file bytes =>
              match interpreter? bytes with
              | some (other, given) =>
                  launchFile run launch fuel other other (given ++ path :: words)
              | none =>
                  if bytes.head? = some 0x7f then return some .notRunnable
                  launchFile run launch fuel "/bin/sh".toList name (path :: words)
          | _ => return some .permissionDenied

def interpreterDepth : Nat := 6

/-- Find a program by its name and run it with words; why that cannot be done, if it
cannot.  The fuel bounds how often programs start other programs. -/
def launchNamed (run : Runner) : Nat -> Tool.Launcher
  | 0, _, _ => return some .linksTooDeep
  | fuel + 1, name, words => do
      let s ← get
      match firstFile s.files (searchPaths s name) with
      | .error e => if name.isEmpty then return some .notFound else return some e
      | .ok path => launchFile run (launchNamed run fuel) interpreterDepth path name words

def launchDepth : Nat := 100

def launch (run : Runner) : Tool.Launcher := launchNamed run launchDepth

def State.refuseProgram (name : List Char) (e : OsError) (s : State) : State :=
  let text := if isAbsence e then "not found".toList else e.reason.toList
  let absent := isAbsence e || e = .nameTooLong || e = .linksTooDeep
  { s.complain (name ++ ": ".toList ++ text) with status := if absent then 127 else 126 }

def runExternal (run : Runner) (name : List Char) (words : List (List Char)) :
    Action Unit := do
  if name.isEmpty then
    modify fun s => { s.complain ": Permission denied".toList with status := 127 }
  else
    match ← launch run name words with
    | none => return
    | some e => modify (State.refuseProgram name e)

end Shell
end TraceAdapter
