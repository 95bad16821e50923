import TraceAdapter.Host.Shell.Expansion
import TraceAdapter.Host.Shell.Tool.Basic

/-!
# Redirections

Where a command reads and writes is changed for as long as it runs.
-/

namespace TraceAdapter
namespace Shell

def nesting : Nat := 1000

def openFault (e : OsError) : List Char :=
  match e with
  | .notFound => "No such file".toList
  | .notADirectory => "No such file".toList
  | _ => e.reason.toList

def createFault (e : OsError) : List Char :=
  match e with
  | .notFound => "Directory nonexistent".toList
  | .notADirectory => "Directory nonexistent".toList
  | _ => e.reason.toList

def refuseRedirection (text : List Char) : Action Bool := do
  modify fun s => { s.complain text with status := 2 }
  return false

def handleOf (files : Files) (place : List String) (node : Node) : Handle :=
  match node.content with
  | .directory => { target := .directory }
  | .device d => { target := .device d }
  | _ =>
      match files.number? place with
      | some n => { target := .file n }
      | none => { target := .text, unread := Bytes.toChars node.bytes }

/-- Let a descriptor lead to where a special path says, if it is one; whether it
was one. -/
def openSpecial (descriptor : Nat) (path : List Char) : Action (Option Bool) := do
  match descriptorOf? path with
  | none => return none
  | some d =>
      let s ← get
      match s.descriptors.lookup d with
      | some n =>
          set (s.point descriptor (some n))
          return some true
      | none => return some false

def openToRead (descriptor : Nat) (path : List Char) : Action Bool := do
  let fault (e : OsError) : Action Bool :=
    refuseRedirection ("cannot open ".toList ++ path ++ ": ".toList ++ openFault e)
  match ← openSpecial descriptor path with
  | some true => return true
  | some false => fault .notFound
  | none =>
      let s ← get
      let text := State.path path
      match s.files.find text with
      | .error e => fault e
      | .ok place =>
          match s.files.lookup text with
          | .error e => fault e
          | .ok node =>
              if node.content = .device .terminal then fault .noDevice
              else
                set (s.install descriptor { handleOf s.files place node with reads := true })
                return true

/-- Let a descriptor lead to a file that is written.  What is written is appended,
or the file is emptied first, unless it is also read; files are perhaps only made
anew. -/
def openToWrite (descriptor : Nat) (how : Redirect) (path : List Char) (anew : Bool) :
    Action Bool := do
  let appends := how matches .append
  let reads := how matches .readWrite
  let fault (text : List Char) : Action Bool :=
    refuseRedirection ("cannot create ".toList ++ path ++ ": ".toList ++ text)
  match ← openSpecial descriptor path with
  | some true => return true
  | some false => fault (createFault .notFound)
  | none =>
      let s ← get
      let install (s : State) (h : Handle) : Action Bool := do
        set (s.install descriptor { h with writes := true, appends, reads })
        return true
      match s.files.reach true (State.path path) with
      | .error e => fault (createFault e)
      | .ok (.absent place) =>
          if path.getLast? = some '/' then fault (createFault .isADirectory)
          else
            let node : Node := { content := .file [], mode := 0o666 &&& (0o777 - s.mask) }
            let files := s.files.put place node
            install { s with files } (handleOf files place node)
      | .ok (.present place) =>
          match s.files.at? place with
          | none => fault (createFault .notFound)
          | some node =>
              if node.isDirectory then fault (createFault .isADirectory)
              else if anew ∧ node.isFile then fault "File exists".toList
              else if node.content = .device .terminal then fault (createFault .noDevice)
              else if ! node.isFile then install s (handleOf s.files place node)
              else
                let bytes := if appends || reads then node.bytes else []
                let files :=
                  match s.files.number? place with
                  | some n => s.files.rewrite n bytes
                  | none => s.files.put place { node with content := .file bytes }
                install { s with files } (handleOf files place node)

def copyDescriptor (descriptor : Nat) (w : List Char) : Action Bool := do
  let s ← get
  if w = ['-'] then
    set (s.point descriptor none)
    return true
  else
    match if w.length = 1 then natural? w else none with
    | none =>
        failWith "Syntax error: Bad fd number".toList
        return false
    | some n =>
        match s.descriptors.lookup n with
        | none => refuseRedirection (w ++ ": Bad file descriptor".toList)
        | some number =>
            set (s.point descriptor (some number))
            return true

/-- Follow a redirection; whether that was possible. -/
def followRedirection (run : Substitution) (r : Redirection) : Action Bool := do
  match r.how with
  | .document body =>
      let unread ← expandText run nesting body
      modify fun s => s.install r.descriptor { target := .text, reads := true, unread }
      return (← get).goesOn
  | how =>
      let w ← expandText run nesting r.word
      if ! (← get).goesOn then return false
      match how with
      | .read => openToRead r.descriptor w
      | .write => openToWrite r.descriptor how w ((← get).has 'C')
      | .copy => copyDescriptor r.descriptor w
      | _ => openToWrite r.descriptor how w false

def followRedirections (run : Substitution) : List Redirection -> Action Bool
  | [] => return true
  | r :: rs => do
      if ← followRedirection run r then followRedirections run rs else return false

def State.undoRedirections (before : State) (s : State) : State :=
  { s with descriptors := before.descriptors }.closeUnused before.handles

/-- Do something with redirections and undo them after it; whether they were
possible. -/
def withRedirections (run : Substitution) (rs : List Redirection) (act : Action Unit) :
    Action Bool := do
  if rs.isEmpty then
    act
    return true
  else
    let before ← get
    let possible ← followRedirections run rs
    if possible then act
    modify (State.undoRedirections before)
    return possible

end Shell
end TraceAdapter
