import TraceAdapter.Host.Shell.Builtin.Control
import TraceAdapter.Host.Shell.Builtin.Limits
import TraceAdapter.Host.Shell.Builtin.Places
import TraceAdapter.Host.Shell.Builtin.Signals
import TraceAdapter.Host.Shell.Builtin.Variables
import TraceAdapter.Host.Shell.Condition
import TraceAdapter.Host.Shell.Format

/-!
# Commands of the shell itself

The commands that a shell knows without running another command.
-/

namespace TraceAdapter
namespace Shell
namespace Builtin

/-!
## Texts
-/

def echo (words : List (List Char)) : Action Unit := print "echo" (Shell.echo words)

def useFormat : List (List Char) -> Action Unit
  | [] => refuse "printf" 2 "usage: printf format [arg ...]".toList
  | format :: words => do
      let p := Shell.printf format words
      for fault in p.faults do refuse "printf" p.status fault.text
      printWith "printf" p.status p.output

def printf : List (List Char) -> Action Unit
  | ['-', '-'] :: words => useFormat words
  | ('-' :: c :: _) :: _ => refuse "printf" 2 ("Illegal option -".toList ++ [c])
  | words => useFormat words

def test (command : String) (words : List (List Char)) : Action Unit := do
  match Condition.holds (← get).files (words.map State.path) with
  | .ok true => answer 0
  | .ok false => answer 1
  | .error text => refuse command 2 (Bytes.toChars (Utf8.encode text))

def bracket (words : List (List Char)) : Action Unit :=
  if words.getLast? = some [']'] then test "[" words.dropLast
  else refuse "[" 2 "missing ]".toList

/-!
## Aliases
-/

def showAlias (a : List Char × List Char) : List Char := a.1 ++ '=' :: quoted a.2 ++ ['\n']

def aliasWords (words : List (List Char)) : Action Unit := do
  answer 0
  if words.isEmpty then print "alias" ((← get).aliases.flatMap showAlias)
  for w in words do
    match splitAssignment w with
    | (name, some text) =>
        modify fun s =>
          { s with aliases := (name, text) :: s.aliases.filter fun a => a.1 ≠ name }
    | (name, none) =>
        match (← get).aliases.lookup name with
        | some text => modify fun s => s.write 1 (showAlias (name, text))
        | none =>
            modify fun s => s.write 2 ("alias: ".toList ++ name ++ " not found\n".toList)
            answer 1

def unalias (words : List (List Char)) : Action Unit := do
  answer 0
  for w in words do
    if w = ['-', 'a'] then modify fun s => { s with aliases := [] }
    else if ((← get).aliases.lookup w).isSome then
      modify fun s => { s with aliases := s.aliases.filter fun a => a.1 ≠ w }
    else
      modify fun s => s.write 2 ("unalias: ".toList ++ w ++ " not found\n".toList)
      answer 1

/-!
## All of them
-/

def all : List (String × (List (List Char) -> Action Unit)) :=
  [(":", fun _ => answer 0), ("true", fun _ => answer 0), ("false", fun _ => answer 1),
    ("echo", echo), ("printf", printf), ("test", test "test"), ("[", bracket),
    ("cd", changeDirectory), ("chdir", changeDirectory), ("pwd", showDirectory),
    ("exit", exit), ("return", back), ("break", jump "break" .leave),
    ("continue", jump "continue" .again), ("set", configure), ("shift", shift),
    ("getopts", nextOption), ("export", publish), ("readonly", lock),
    ("local", confine), ("unset", unset), ("read", read), ("kill", kill),
    ("trap", trap), ("umask", maskOfFiles), ("wait", wait), ("alias", aliasWords),
    ("unalias", unalias), ("ulimit", limits),
    ("jobs", fun _ => answer 0), ("fg", resume "fg"), ("bg", resume "bg"),
    ("times", fun _ => print "times" "0m0.00s 0m0.00s\n0m0.00s 0m0.00s\n".toList)]

/-- What a command does to its words, none when the shell does not know it. -/
def find? (name : List Char) : Option (List (List Char) -> Action Unit) :=
  all.lookup (String.ofList name)

def isSpecial (name : List Char) : Bool :=
  Command.specials.contains (String.ofList name)

end Builtin
end Shell
end TraceAdapter
