import TraceAdapter.Host.Shell.Launching

/-!
# Running shell scripts

What each command of a script does.
-/

namespace TraceAdapter
namespace Shell

/-- Repeat a step while it asks for it, at most so many times. -/
def iterate {α : Type} (step : α -> State -> (α × Bool) × State) :
    Nat -> α -> State -> α × State
  | 0, a, s => (a, s)
  | n + 1, a, s =>
      let r := step a s
      if r.1.2 then iterate step n r.1.1 r.2 else (r.1.1, r.2)

def firstJob : Nat := 3

def maxRounds : Nat := 1000000

/-!
## Loops
-/

def goesRound : Action Bool := do
  let s ← get
  match s.flow with
  | .onward => return true
  | .leave n =>
      set { s with flow := if 1 < n then .leave (n - 1) else .onward }
      return false
  | .again n =>
      set { s with flow := if 1 < n then .again (n - 1) else .onward }
      return n ≤ 1
  | _ => return false

def inLoop (act : Action Nat) : Action Unit := do
  modify fun s => { s with loops := s.loops + 1 }
  let status ← act
  modify fun s => { s with loops := s.loops - 1, status }

/-- Run a body while a test has the wanted outcome; the status of the last
run. -/
def runLoop (run : Runner) (tested wanted : Bool) (test body : Command) : Action Unit :=
  let step (status : Nat) : Action (Nat × Bool) := do
    run true test
    if ! (← goesRound) then return (status, false)
    else if ((← get).status = 0) != wanted then return (status, false)
    else
      run tested body
      let status := (← get).status
      return (status, ← goesRound)
  inLoop (iterate step maxRounds 0)

def runEach (run : Runner) (tested : Bool) (name : List Char) (body : Command)
    (words : List (List Char)) : Action Unit :=
  let step (r : Nat × List (List Char)) : Action ((Nat × List (List Char)) × Bool) := do
    match r.2 with
    | [] => return (r, false)
    | w :: ws =>
        modify fun s => s.bind name w
        run tested body
        let status := (← get).status
        return ((status, ws), ← goesRound)
  inLoop do return (← iterate step maxRounds (0, words)).1

/-!
## Simple commands
-/

def State.arrive (s : State) : State :=
  match s.flow with
  | .ended _ => s
  | .killed _ _ => s
  | _ => { s with flow := .onward }

def callFunction (run : Runner) (tested : Bool) (body : Command)
    (arguments : List (List Char)) : Action Unit := do
  let s ← get
  set { s with arguments, locals := [] :: s.locals, loops := 0, scanned := (1, none) }
  run tested body
  modify fun t =>
    let t := (t.locals.headD []).foldl State.restore t
    { t.arrive with
      arguments := s.arguments, locals := s.locals, loops := s.loops, scanned := s.scanned }

def source (run : Runner) (tested : Bool) : List (List Char) -> Action Unit
  | [] => answer 0
  | name :: _ => do
      let s ← get
      match firstFile s.files (searchPaths s name) with
      | .error e =>
          if ! name.contains '/' then abort "." (name ++ ": not found".toList)
          else if s.files.isDirectory (State.path name) then answer 0
          else
            abort "."
              ("cannot open ".toList ++ name ++ ": ".toList ++ openFault e)
      | .ok path =>
          match s.files.read (State.path path) with
          | .error _ => answer 0
          | .ok bytes =>
              set { s with status := 0, heading := name }
              runFile run tested (Bytes.toChars bytes)
              modify fun t => { t.arrive with heading := s.heading }

def wrappers : List String := ["eval", ".", "exec", "command", "type", "hash"]

inductive Kind where
  | keyword
  | standsFor (text : List Char)
  | function
  | special
  | builtin
  | program (path : List Char)
  | unknown

def kindOf (s : State) (w : List Char) : Kind :=
  if (Command.keywords.map String.toList).contains w then .keyword
  else
    match s.aliases.lookup w with
    | some text => .standsFor text
    | none =>
        if (s.functions.lookup w).isSome then .function
        else if Builtin.isSpecial w then .special
        else if (Builtin.find? w).isSome || wrappers.contains (String.ofList w) then .builtin
        else if w.contains '/' then
          if s.files.contains (State.path w) then .program w else .unknown
        else
          match firstFile s.files (searchPaths s w) with
          | .ok path => .program path
          | .error _ => .unknown

def locate (w : List Char) : Action Unit := do
  match kindOf (← get) w with
  | .standsFor text => print "command" ("alias ".toList ++ Builtin.showAlias (w, text))
  | .program path => print "command" (path ++ ['\n'])
  | .unknown => answer 127
  | _ => print "command" (w ++ ['\n'])

def describe (words : List (List Char)) : Action Unit := do
  answer 0
  for w in words do
    let write (text : List Char) : Action Unit :=
      modify fun s => s.write 1 (w ++ text ++ ['\n'])
    match kindOf (← get) w with
    | .keyword => write " is a shell keyword".toList
    | .standsFor text => write (" is an alias for ".toList ++ text)
    | .function => write " is a shell function".toList
    | .special => write " is a special shell builtin".toList
    | .builtin => write " is a shell builtin".toList
    | .program path => write (" is ".toList ++ path)
    | .unknown =>
        write ": not found".toList
        answer 127

def remember (words : List (List Char)) : Action Unit := do
  answer 0
  for w in words do
    if w ≠ ['-', 'r'] then
      if kindOf (← get) w matches .unknown then
        refuse "hash" 1 (w ++ ": not found".toList)

def under (name : List Char) (act : Action Unit) : Action Unit := do
  let before := (← get).heading
  modify fun s => { s with heading := name }
  act
  modify fun s => { s with heading := before }

def survive (act : Action Unit) : Action Unit := do
  act
  modify fun s => if s.faulted then { s with flow := .onward, faulted := false } else s

/-- Run a command that is no function by its name and its words.  The fuel
bounds how often one names another. -/
def runNamed (run : Runner) (tested : Bool) : Nat -> List Char -> List (List Char) ->
    Action Unit
  | 0, _, _ => return
  | fuel + 1, name, words => do
      match String.ofList name, words with
      | "eval", _ =>
          answer 0
          under name (runText run tested (List.intercalate [' '] words))
      | ".", ['-', '-'] :: words => source run tested words
      | ".", _ => source run tested words
      | "exec", [] => answer 0
      | "exec", ['-', '-'] :: words => runNamed run tested fuel name words
      | "exec", inner :: words =>
          match ← launch run inner words with
          | some e => under name (modify (State.refuseProgram inner e))
          | none => modify fun s => { s with traps := s.traps.filter fun t => t.1 ≠ "EXIT" }
          modify fun s => if s.goesOn then s.exit s.status else s
      | "command", [] => answer 0
      | "command", ['-', '-'] :: words => runNamed run tested fuel name words
      | "command", ['-', 'v'] :: words => locate (words.headD [])
      | "command", ['-', 'V'] :: words => describe (words.take 1)
      | "command", ['-', 'p'] :: words => do
          let before := (← get).lookup? "PATH".toList
          modify fun s => s.put "PATH".toList usualPath
          runNamed run tested fuel name words
          modify fun s => s.restore ("PATH".toList, before)
      | "command", inner :: words => survive (runNamed run tested fuel inner words)
      | "type", _ => describe words
      | "hash", _ => remember words
      | _, _ =>
          match Builtin.find? name with
          | some act => act words
          | none => runExternal run name words

def dispatch (run : Runner) (tested : Bool) (name : List Char)
    (words : List (List Char)) : Action Unit := do
  let s ← get
  match if Builtin.isSpecial name then none else s.functions.lookup name with
  | some body => callFunction run tested body words
  | none => runNamed run tested (words.length + 1) name words

def assign (run : Runner) : List (List Char × Word) -> Action (List (List Char))
  | [] => return []
  | (x, w) :: rest => do
      let value ← expandValue (substitute run) nesting w
      if ! (← get).goesOn then return []
      modify fun s => s.bind x value
      if ! (← get).goesOn then return []
      return (x ++ '=' :: value) :: (← assign run rest)

def trace (run : Runner) (words : List (List Char)) : Action Unit := do
  let s ← get
  if s.has 'x' then
    let sign := (s.lookup? "PS4".toList).getD []
    set { s with options := s.options.filter (· ≠ 'x') }
    let shown ← expandText (substitute run) nesting (.ofText .document s.line sign)
    modify fun t => { t with options := s.options, status := s.status, answer? := s.answer? }
    modify fun s => s.write 2 (shown ++ List.intercalate [' '] words ++ ['\n'])

def splitAssignments : List Word -> List (List Char × Word) × List Word
  | [] => ([], [])
  | w :: ws =>
      match w.assignment? with
      | none => ([], w :: ws)
      | some a =>
          let (more, rest) := splitAssignments ws
          (a :: more, rest)

def declares : List (List Char) -> Bool
  | [] => false
  | name :: words =>
      if ["command", "-p", "--"].contains (String.ofList name) then declares words
      else ["export", "readonly", "local"].contains (String.ofList name)

/-- The fields of the words of a command.  A word that assigns a variable is not
divided where that is what the command is for. -/
def expandCommand (run : Runner) : List (List Char) -> List Word -> Action (List (List Char))
  | fields, [] => return fields
  | fields, w :: ws => do
      match if declares fields then w.assignment? else none with
      | some (x, value) => do
          let text ← expandValue (substitute run) nesting value
          expandCommand run (fields ++ [x ++ '=' :: text]) ws
      | none => do
          let more ← expandFields (substitute run) nesting [w]
          expandCommand run (fields ++ more) ws

def runSimple (run : Runner) (tested : Bool) (line : Nat) (ws : List Word)
    (rs : List Redirection) : Action Unit := do
  modify fun s => { s with line, answer? := none }
  let (assignments, rest) := splitAssignments ws
  let fields ← expandCommand run [] rest
  if ! (← get).goesOn then return
  match fields with
  | [] =>
      if ← withRedirections (substitute run) rs (pure ()) then
        trace run (← assign run assignments)
        modify fun s => { s with status := if s.goesOn then s.answer?.getD 0 else s.status }
  | name :: words =>
      let s ← get
      let special := Builtin.isSpecial name
      let act : Action Unit := do
        let shown ← assign run assignments
        if (← get).goesOn then
          trace run (shown ++ name :: words)
          if ! special then
            modify fun t =>
              { t with exported := assignments.map Prod.fst ++ t.exported }
          dispatch run tested name words
        if ! special then
          modify fun t =>
            let t := assignments.foldl (fun t a => t.restore (a.1, s.lookup? a.1)) t
            { t with exported := assignments.foldl (fun xs a => xs.erase a.1) t.exported }
      if name = "exec".toList ∧ words.isEmpty then
        if ← followRedirections (substitute run) rs then act
        else modify fun s => s.exit 2
      else if ! (← withRedirections (substitute run) rs act) ∧ special then
        modify fun s => if s.goesOn then s.exit 2 else s

/-!
## Commands
-/

def checked (tested : Bool) (act : Action Unit) : Action Unit := do
  act
  modify fun s =>
    if s.goesOn && s.has 'e' && ! tested && s.status ≠ 0 then s.exit s.status else s

def runArms (run : Runner) (tested : Bool) (text : List Char) :
    List (List Word × Command) -> Action Unit
  | [] => answer 0
  | (patterns, body) :: arms => do
      let ps ← patterns.mapM (expandPattern (substitute run) nesting)
      if ! (← get).goesOn then return
      if ps.any fun p => Wildcard.fitsAll p text then
        match body with
        | .nothing => answer 0
        | _ => run tested body
      else runArms run tested text arms

def leave (run : Runner) (act : Action Unit) : Action Unit := do
  let start := (← get).files.clock
  inSubshell run do
    modify fun s => s.install 0 { target := .device .null, reads := true }
    act
  modify fun s =>
    let process := s.jobs.foldl (fun n j => max n (j.process + 1)) firstJob
    { s.bind ['!'] (digits process) with
      files := { s.files with clock := start }
      jobs := s.jobs ++ [{ process, status := s.status, ends := s.files.clock }]
      status := 0 }

def runCommand (run : Runner) (tested : Bool) (c : Command) : Action Unit := do
  if ! (← get).goesOn ∨ (← get).has 'n' then return
  match c with
  | .nothing => return
  | .simple line ws rs =>
      checked tested (runSimple run tested line ws rs)
      runPending run
  | .pipeline stages => checked tested (runPipeline run tested stages pipeTries pipeRoom)
  | .negation c =>
      run true c
      modify fun s =>
        if s.goesOn then { s with status := if s.status = 0 then 1 else 0 } else s
  | .andThen first second =>
      run true first
      if (← get).status = 0 then run tested second
  | .orElse first second =>
      run true first
      if (← get).status ≠ 0 then run tested second
  | .sequence first second =>
      run tested first
      run tested second
  | .background c => leave run (run tested c)
  | .redirected line c rs =>
      modify fun s => { s with line }
      checked tested do
        let _ ← withRedirections (substitute run) rs (run tested c)
  | .subshell c => checked tested (inSubshell run (run tested c))
  | .conditional test yes no =>
      run true test
      if (← get).goesOn then
        match if (← get).status = 0 then yes else no with
        | .nothing => answer 0
        | chosen => run tested chosen
  | .loop wanted test body => runLoop run tested wanted test body
  | .forEach name words? body =>
      match words? with
      | none => runEach run tested name body (← get).arguments
      | some ws =>
          let words ← expandFields (substitute run) nesting ws
          if (← get).goesOn then runEach run tested name body words
  | .cases w arms =>
      let text ← expandText (substitute run) nesting w
      if (← get).goesOn then runArms run tested text arms
  | .define name body =>
      modify fun s => { s with functions := (name, body) :: s.functions, status := 0 }

/-- Run a command.  The fuel bounds how deeply commands are nested. -/
def execute : Nat -> Runner
  | 0 => fun _ _ => return
  | fuel + 1 => runCommand (execute fuel)

def depth : Nat := 4000

def State.ended (files : Files) (s : State) : Ended where
  output := Bytes.ofChars (s.stream 1).text
  complaint := Bytes.ofChars (s.stream 2).text
  files := { s.files with here := files.here }
  fault? :=
    match s.flow with
    | .ended fault? => fault?
    | .killed number name => some (.signal number name)
    | _ => State.exitFault s.status

def wordChars (w : String) : List Char := Bytes.toChars (Utf8.encode w)

/-- Run the file at a path with words; why that cannot be done, if it cannot. -/
def start (files : Files) (path : String) (words : List String) :
    Except OsError Ended :=
  let name := wordChars path
  let run := execute depth
  let begin := State.start files name
  match files.lookup path with
  | .error e => .error e
  | .ok node =>
      if ! node.isRunnable then .error .permissionDenied
      else
        match node.content with
        | .program program =>
            let words := words.map wordChars
            let act : Action Unit :=
              if shells.contains program then runShell run words
              else
                match Tool.find? program with
                | some tool => tool (launch run) name words
                | none => Tool.refuse name 1 "not supported".toList
            .ok ((act begin).2.ended files)
        | .file bytes =>
            match interpreter? bytes with
            | none => .error .notRunnable
            | some (other, given) =>
                let act := launchFile run (launch run) interpreterDepth other other
                  (given ++ name :: words.map wordChars)
                match act begin with
                | (some e, _) => .error e
                | (none, s) => .ok (s.ended files)
        | _ => .error .permissionDenied

end Shell
end TraceAdapter
