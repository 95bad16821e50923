import TraceAdapter.Host.Shell.Answer

/-!
# Commands on the working directory

The working directory has a path, the one by which it was come to, and a place,
to which links on that path lead.
-/

namespace TraceAdapter
namespace Shell
namespace Builtin

def pathOfPlace (place : List String) : List Char :=
  if place.isEmpty then ['/']
  else place.flatMap fun s => '/' :: Bytes.toChars (Utf8.encode s)

/-- The path that another one leads to from a directory, dots resolved by its
text. -/
def pathFrom (directory w : List Char) : List Char :=
  let pieces := Path.splitSlashes w
  let start : List (List Char) :=
    if w.head? = some '/' then []
    else (Path.splitSlashes directory).filter (! ·.isEmpty)
  let parts := pieces.foldl
    (fun parts piece =>
      if piece = [] ∨ piece = ['.'] then parts
      else if piece = ['.', '.'] then parts.dropLast
      else parts ++ [piece])
    start
  '/' :: List.intercalate ['/'] parts

/-- Go to a directory, by its place or by its path; whether that was possible. -/
def enter (physical : Bool) (w : List Char) : Action Bool := do
  let s ← get
  let path := if physical then w else pathFrom s.directory w
  match s.files.find (State.path path) with
  | .error _ => return false
  | .ok place =>
      if ! s.files.isDirectoryAt place then return false
      let directory := if physical then pathOfPlace place else path
      set { s with files := { s.files with here := place }, directory }
      modify fun t =>
        let t := (t.put "OLDPWD".toList s.directory).put "PWD".toList directory
        { t with exported := "OLDPWD".toList :: "PWD".toList :: t.exported }
      return true

def searched (s : State) (w : List Char) : List (List Char × Bool) :=
  match s.lookup? "CDPATH".toList with
  | none => []
  | some value =>
      let first := w.takeWhile (· ≠ '/')
      if w.head? = some '/' ∨ first = ['.'] ∨ first = ['.', '.'] then []
      else
        (value.splitOn ':').map fun d => if d.isEmpty then (w, false) else (d ++ '/' :: w, true)

def changeDirectory (words : List (List Char)) : Action Unit := do
  let s ← get
  let isOption (w : List Char) : Bool := w = ['-', 'P'] || w = ['-', 'L']
  let physical := (words.takeWhile isOption).getLast? = some ['-', 'P']
  let left := words.dropWhile isOption
  let left := if left.head? = some ['-', '-'] then left.tail else left
  let back := left.head? = some ['-']
  let wanted : List Char :=
    match left with
    | [] => (s.lookup? "HOME".toList).getD []
    | ['-'] :: _ => (s.lookup? "OLDPWD".toList).getD []
    | w :: _ => w
  let tries := (searched s wanted).filter fun t => s.files.isDirectory (State.path t.1)
  let (path, found) := tries.headD (if wanted.isEmpty then ['.'] else wanted, false)
  if ← enter physical path then
    answer 0
    if back || found then print "cd" ((← get).directory ++ ['\n'])
  else refuse "cd" 2 ("can't cd to ".toList ++ wanted)

def showDirectory (words : List (List Char)) : Action Unit := do
  let s ← get
  let path := if words.contains ['-', 'P'] then pathOfPlace s.files.here else s.directory
  print "pwd" (path ++ ['\n'])

/-!
## Modes
-/

def letterBits (letters : List Char) : Nat :=
  letters.foldl
    (fun bits c => bits ||| (if c = 'r' then 4 else if c = 'w' then 2 else if c = 'x' then 1 else 0))
    0

def whoBits (letters : List Char) : Nat :=
  if letters.isEmpty ∨ letters.contains 'a' then 0o777
  else
    letters.foldl
      (fun bits c =>
        bits ||| (if c = 'u' then 0o700 else if c = 'g' then 0o070 else if c = 'o' then 0o007 else 0))
      0

def octal (width n : Nat) : List Char :=
  let ds := Nat.toDigits 8 n
  List.replicate (width - ds.length) '0' ++ ds

def allowedLetters (mode : Nat) : List Char :=
  (if mode &&& 4 ≠ 0 then ['r'] else []) ++ (if mode &&& 2 ≠ 0 then ['w'] else []) ++
    (if mode &&& 1 ≠ 0 then ['x'] else [])

/-- The mask after a clause of letters, none when it is no clause. -/
def maskAfter? (mask : Nat) (clause : List Char) : Option Nat :=
  let (who, rest) := clause.span fun c => "ugoa".toList.contains c
  match rest with
  | op :: letters =>
      if letters.any fun c => ! "rwx".toList.contains c then none
      else
        let bits := letterBits letters
        let changed := (bits * 0o111) &&& whoBits who
        let allowed := 0o777 - mask
        if op = '+' then some (0o777 - (allowed ||| changed))
        else if op = '-' then some (0o777 - (allowed - (allowed &&& changed)))
        else if op = '=' then
          some (0o777 - ((allowed - (allowed &&& whoBits who)) ||| changed))
        else none
  | [] => none

def maskOfFiles : List (List Char) -> Action Unit
  | [] => do print "umask" (octal 4 (← get).mask ++ ['\n'])
  | ['-', 'S'] :: _ => do
      let allowed := 0o777 - (← get).mask
      print "umask"
        ("u=".toList ++ allowedLetters (allowed / 64) ++ ",g=".toList ++
          allowedLetters (allowed / 8 % 8) ++ ",o=".toList ++ allowedLetters (allowed % 8) ++
          ['\n'])
  | w :: _ => do
      if (w.head?.map Char.isDigit).getD false then
        match Numeral.ofDigits? 8 w with
        | some n => modify fun s => { s with mask := n % 512, status := 0 }
        | none => refuse "umask" 2 ("Illegal number: ".toList ++ w)
      else
        let clauses := w.splitOn ','
        match clauses.foldl (fun mask? c => mask?.bind fun m => maskAfter? m c)
            (some (← get).mask) with
        | some mask => modify fun s => { s with mask, status := 0 }
        | none => refuse "umask" 2 ("Illegal mode: ".toList ++ w)

end Builtin
end Shell
end TraceAdapter
