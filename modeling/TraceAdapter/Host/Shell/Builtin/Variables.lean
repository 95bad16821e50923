import TraceAdapter.Host.Shell.Answer
import TraceAdapter.Host.Shell.Pattern

/-!
# Commands on variables

Variables are published, locked, confined to a function and taken away, and
lines are read into them.
-/

namespace TraceAdapter
namespace Shell
namespace Builtin

def splitAssignment (w : List Char) : List Char × Option (List Char) :=
  match w.span (· ≠ '=') with
  | (name, _ :: value) => (name, some value)
  | (name, []) => (name, none)

/-- Go through names and perhaps values for them.  A name that is none ends the
shell, and so does a value for a variable that keeps its own. -/
def declare (command : String) (mark : List Char -> State -> State)
    (words : List (List Char)) : Action Unit := do
  answer 0
  for w in words do
    let (name, value?) := splitAssignment w
    let s ← get
    if ! s.goesOn then pure ()
    else if ! isName name then abort command (name ++ ": bad variable name".toList)
    else
      match value? with
      | none => modify (mark name)
      | some value =>
          if s.locked.contains name then
            abort command (name ++ ": is read only".toList)
          else modify fun s => mark name (s.put name value)

def showDeclared (command : String) (names : List (List Char)) : Action Unit := do
  let s ← get
  let sorted := names.eraseDups.mergeSort Bytes.notAfter
  print command (sorted.flatMap fun name =>
    let value :=
      match s.lookup? name with
      | some value => '=' :: quoted value
      | none => []
    command.toList ++ ' ' :: name ++ value ++ ['\n'])

def publish (words : List (List Char)) : Action Unit := do
  if words.isEmpty ∨ words = [['-', 'p']] then showDeclared "export" (← get).exported
  else
    declare "export" (fun name s => { s with exported := name :: s.exported })
      (words.filter fun w => w ≠ ['-', 'p'] ∧ w ≠ ['-', '-'])

def lock (words : List (List Char)) : Action Unit := do
  if words.isEmpty ∨ words = [['-', 'p']] then showDeclared "readonly" (← get).locked
  else
    declare "readonly" (fun name s => { s with locked := name :: s.locked })
      (words.filter fun w => w ≠ ['-', 'p'] ∧ w ≠ ['-', '-'])

def confine (words : List (List Char)) : Action Unit := do
  match (← get).locals with
  | [] => abort "local" "not in a function".toList
  | saved :: outer =>
      let s ← get
      let entries := words.map fun w =>
        let name := (splitAssignment w).1
        (name, s.lookup? name)
      modify fun s => { s with locals := (entries ++ saved) :: outer }
      declare "local" (fun _ s => s) words

def unbind (words : List (List Char)) : Action Unit := do
  answer 0
  for name in words do
    if ! isName name then abort "unset" (name ++ ": bad variable name".toList)
    else if (← get).locked.contains name then
      abort "unset" (name ++ ": is read only".toList)
    else
      modify fun s =>
        { s.unbind name with exported := s.exported.filter fun x => x ≠ name }

def unset : List (List Char) -> Action Unit
  | ['-', 'f'] :: words => modify fun s =>
      { s with functions := s.functions.filter fun f => ! words.contains f.1, status := 0 }
  | ['-', 'v'] :: words => unbind words
  | words => unbind words

/-!
## Lines
-/

/-- A line without its end, lines joined by a backslash; what follows its end, if
it has one. -/
def readLine (raw : Bool) : Nat -> List Char -> List Marked × Option (List Char)
  | 0, _ => ([], none)
  | _, [] => ([], none)
  | fuel + 1, c :: cs =>
      if c = '\n' then ([], some cs)
      else if c = Char.ofNat 0 then readLine raw fuel cs
      else
        let more (m : Marked) (cs : List Char) : List Marked × Option (List Char) :=
          let (line, rest?) := readLine raw fuel cs
          (m :: line, rest?)
        match raw, c, cs with
        | false, '\\', '\n' :: cs => readLine raw fuel cs
        | false, '\\', d :: cs => more (d, false) cs
        | _, _, _ => more (c, true) cs

def isSeparatingBlank (separators : List Char) (m : Marked) : Bool :=
  m.2 && (m.1 = ' ' || m.1 = '\t') && separators.contains m.1

def splitField (separators : List Char) (line : List Marked) :
    List Marked × List Marked :=
  let blank := isSeparatingBlank separators
  let isSeparator (m : Marked) : Bool := m.2 && separators.contains m.1
  let (field, rest) := (line.dropWhile blank).span fun m => ! isSeparator m
  match rest.dropWhile blank with
  | [] => (field, [])
  | m :: more => (field, if isSeparator m then more.dropWhile blank else m :: more)

/-- Divide a line among variables; the last one gets all that is left. -/
def share (separators : List Char) : List (List Char) -> List Marked ->
    List (List Char × List Char)
  | [], _ => []
  | [x], line =>
      let blank := isSeparatingBlank separators
      let (field, rest) := splitField separators line
      let whole := ((line.dropWhile blank).reverse.dropWhile blank).reverse
      [(x, (if rest.isEmpty then field else whole).map Prod.fst)]
  | x :: xs, line =>
      let (field, rest) := splitField separators line
      (x, field.map Prod.fst) :: share separators xs rest

/-- The options in front of the names to read: whether backslashes are taken as
they are, and the names; or the letter that is no option. -/
def readingOptions (raw : Bool) : List (List Char) -> Except Char (Bool × List (List Char))
  | ['-', '-'] :: words => .ok (raw, words)
  | ['-', 'r'] :: words => readingOptions true words
  | ['-', 'p'] :: _ :: words => readingOptions raw words
  | ['-', 'r', 'p'] :: _ :: words => readingOptions true words
  | ('-' :: 'p' :: _ :: _) :: words => readingOptions raw words
  | ('-' :: c :: cs) :: words =>
      match (c :: cs).find? fun c => c ≠ 'r' ∧ c ≠ 'p' with
      | some fault => .error fault
      | none => readingOptions true words
  | words => .ok (raw, words)

def read (words : List (List Char)) : Action Unit := do
  match readingOptions false words with
  | .error c => refuse "read" 2 ("Illegal option -".toList ++ [c])
  | .ok (_, []) => refuse "read" 2 "arg count".toList
  | .ok (raw, names) =>
      let s ← get
      let (line, ended) ← modifyGet fun s => s.readWith 0 fun cs =>
        let (line, rest?) := readLine raw (cs.length + 1) cs
        ((line, rest?.isSome), rest?)
      answer (if ended then 0 else 1)
      for (x, value) in share s.separators names line do
        if (← get).status = 2 then pure ()
        else if ! isName x then refuse "read" 2 (x ++ ": bad variable name".toList)
        else if s.locked.contains x then refuse "read" 2 (x ++ ": is read only".toList)
        else modify fun s => s.put x value

end Builtin
end Shell
end TraceAdapter
