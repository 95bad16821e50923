import TraceAdapter.Host.Shell.Builtin
import TraceAdapter.Host.Shell.Tool.Texts

/-!
# Modes

Modes say who may read, write and run something.  They are written as numbers or as
clauses of letters that change a mode.
-/

namespace TraceAdapter
namespace Shell
namespace Tool

def bitsOfLetter? (isDirectory : Bool) (mode : Nat) (c : Char) : Option Nat :=
  match c with
  | 'r' => some 0o444
  | 'w' => some 0o222
  | 'x' => some 0o111
  | 'X' => some (if isDirectory || mode &&& 0o111 ≠ 0 then 0o111 else 0)
  | 's' => some 0o6000
  | 't' => some 0o1000
  | 'u' => some (mode / 64 % 8 * 0o111)
  | 'g' => some (mode / 8 % 8 * 0o111)
  | 'o' => some (mode % 8 * 0o111)
  | _ => none

def bitsOfWho (letters : List Char) : Nat :=
  letters.foldl
    (fun bits c =>
      bits |||
        (if c = 'u' then 0o4700 else if c = 'g' then 0o2070 else if c = 'o' then 0o1007
          else 0o7777))
    0

def without (n bits : Nat) : Nat := n - (n &&& bits)

/-- A mode after the operations of a clause.  `affected` are the bits that may change.
The fuel bounds the operations. -/
def applyOperations (isDirectory : Bool) (affected : Nat) :
    Nat -> List Char -> Nat -> Option Nat
  | 0, _, mode => some mode
  | _, [], mode => some mode
  | fuel + 1, op :: cs, mode =>
      let (letters, rest) := cs.span fun c => ! "+-=".toList.contains c
      match letters.mapM (bitsOfLetter? isDirectory mode) with
      | none => none
      | some parts =>
          let bits := parts.foldl (· ||| ·) 0 &&& affected
          if op = '+' then applyOperations isDirectory affected fuel rest (mode ||| bits)
          else if op = '-' then applyOperations isDirectory affected fuel rest (without mode bits)
          else if op = '=' then
            applyOperations isDirectory affected fuel rest
              (without mode (affected &&& 0o7777) ||| bits)
          else none

def applyClause (mask : Nat) (isDirectory : Bool) (clause : List Char) (mode : Nat) :
    Option Nat :=
  let (who, rest) := clause.span fun c => "ugoa".toList.contains c
  let affected := if who.isEmpty then without 0o7777 mask else bitsOfWho who
  if rest.isEmpty then none
  else applyOperations isDirectory affected (rest.length + 1) rest mode

/-- A mode after what a word says, none when it is no good. -/
def modeAfter? (mask : Nat) (isDirectory : Bool) (w : List Char) (mode : Nat) : Option Nat :=
  if (w.head?.map Char.isDigit).getD false then
    (Numeral.ofDigits? 8 w).bind fun n => if n ≤ 0o7777 then some n else none
  else
    (w.splitOn ',').foldl
      (fun mode? clause => mode?.bind (applyClause mask isDirectory clause)) (some mode)

def kindLetter (content : Node.Content) : Char :=
  match content with
  | .directory => 'd'
  | .link _ => 'l'
  | .device _ => 'c'
  | _ => '-'

def modeLetters (node : Node) : List Char :=
  let three (bits : Nat) (special : Bool) (small large : Char) : List Char :=
    [if bits &&& 4 ≠ 0 then 'r' else '-', if bits &&& 2 ≠ 0 then 'w' else '-',
      if special then (if bits &&& 1 ≠ 0 then small else large)
      else if bits &&& 1 ≠ 0 then 'x' else '-']
  let m := node.mode
  kindLetter node.content ::
    (three (m / 64 % 8) (m &&& 0o4000 ≠ 0) 's' 'S' ++
      three (m / 8 % 8) (m &&& 0o2000 ≠ 0) 's' 'S' ++
      three (m % 8) (m &&& 0o1000 ≠ 0) 't' 'T')

def modeDigits (node : Node) : List Char := Nat.toDigits 8 node.mode

def setMode (files : Files) (place : List String) (mode : Nat) : Files :=
  match files.number? place, files.at? place with
  | some n, _ => files.change n fun node => { node with mode }
  | none, some node => files.put place { node with mode }
  | none, none => files

def placesBelow (files : Files) : Nat -> List String -> List (List String)
  | 0, place => [place]
  | fuel + 1, place =>
      match files.at? place with
      | some node =>
          if node.isDirectory then
            let names := (files.names place).eraseDups.mergeSort fun a b => a ≤ b
            place :: names.flatMap fun n => placesBelow files fuel (place ++ [n])
          else [place]
      | none => [place]

def treeDepth : Nat := 200

def chmodOptions : Options :=
  .of "cfvR"
    [("changes", "c"), ("silent", "f"), ("quiet", "f"), ("verbose", "v"), ("recursive", "R"),
      ("reference=", "reference"), ("no-preserve-root", "root"), ("preserve-root", "keep")]

def guardModes (words : List (List Char)) : List (List Char) × List (List Char) :=
  let isMode (w : List Char) : Bool :=
    match w with
    | '-' :: c :: _ => "rwxXstugo,+-=0123456789".toList.contains c && w ≠ ['-', '-'] &&
        w[1]? ≠ some '-'
    | _ => false
  (words.filter isMode, words.filter fun w => ! isMode w)

def modeReport (path : List Char) (before after : Node) : List Char :=
  let show_ (n : Node) : List Char :=
    let ds := modeDigits n
    List.replicate (4 - ds.length) '0' ++ ds ++ " (".toList ++ (modeLetters n).tail ++ [')']
  if before.mode = after.mode then
    "mode of ".toList ++ inQuotes path ++ " retained as ".toList ++ show_ after ++ ['\n']
  else
    "mode of ".toList ++ inQuotes path ++ " changed from ".toList ++ show_ before ++
      " to ".toList ++ show_ after ++ ['\n']

def chmod : Tool := fun _ name words =>
  let (modes, others) := guardModes words
  withOptions name 1 chmodOptions others fun g => do
    let s ← get
    let reference? : Option (Except OsError Node) :=
      (g.value? "reference").map fun p => s.files.lookup (State.path p)
    let (mode?, paths) : Option (List Char) × List (List Char) :=
      match reference?, modes, g.operands with
      | some (.ok node), _, paths => (some (modeDigits node), paths)
      | _, [], m :: paths => (some m, paths)
      | _, ms@(_ :: _), paths => (some (List.intercalate [','] ms), paths)
      | _, [], [] => (none, [])
    match reference?, mode?, paths with
    | some (.error e), _, _ =>
        refuse name 1 ("failed to get attributes of ".toList ++
          inQuotes ((g.value? "reference").getD []) ++ ": ".toList ++ reason e)
    | _, none, _ => missingOperand name none
    | _, some m, [] => missingOperand name (some m)
    | _, some m, paths =>
        if (modeAfter? 0 false m 0).isNone then
          refuseUsage name 1 ("invalid mode: ".toList ++ inQuotes m)
        else
          let mut status := 0
          for path in paths do
            let s ← get
            match s.files.find (State.path path) with
            | .error e =>
                if ! g.has "f" then
                  warn name ("cannot access ".toList ++ inQuotes path ++ ": ".toList ++ reason e)
                status := 1
            | .ok place =>
                let all := if g.has "R" then placesBelow s.files treeDepth place else [place]
                for p in all do
                  let files := (← get).files
                  if let some node := files.at? p then
                    if ! node.isLink then
                      let mode := (modeAfter? s.mask node.isDirectory m node.mode).getD node.mode
                      let shownPath :=
                        path ++ (p.drop place.length).flatMap fun n => '/' :: n.toList
                      if g.has "v" || (g.has "c" && mode ≠ node.mode) then
                        emit (modeReport shownPath node { node with mode })
                      modify fun s => { s with files := setMode files p mode }
          answer status

def changeOwner (group : Bool) : Tool := fun _ name words =>
  withOptions name 1
    (.of "cfvRhHLP" [("changes", "c"), ("silent", "f"), ("quiet", "f"), ("verbose", "v"),
      ("recursive", "R"), ("no-dereference", "h"), ("reference=", "reference")])
    words fun g => do
      let (owner?, paths) : Option (List Char) × List (List Char) :=
        if g.has "reference" then (some ['0'], g.operands)
        else (g.operands.head?, g.operands.tail)
      match owner?, paths with
      | none, _ => missingOperand name none
      | some w, [] => missingOperand name (some w)
      | some w, paths =>
          let isKnown (cs : List Char) : Bool :=
            cs.isEmpty || cs = "root".toList || cs.all Char.isDigit
          let (user, rest) := if group then ([], ':' :: w) else w.span (· ≠ ':')
          if ! isKnown user then
            refuse name 1 ("invalid user: ".toList ++ inQuotes w)
          else if ! isKnown (rest.drop 1) then
            refuse name 1 ("invalid group: ".toList ++ inQuotes w)
          else
            let mut status := 0
            for path in paths do
              match (← get).files.find (State.path path) with
              | .ok _ => pure ()
              | .error e =>
                  warn name ("cannot access ".toList ++ inQuotes path ++ ": ".toList ++ reason e)
                  status := 1
            answer status

end Tool
end Shell
end TraceAdapter
