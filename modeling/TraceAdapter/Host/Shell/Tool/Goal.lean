import TraceAdapter.Host.Shell.Tool.Listing
import TraceAdapter.Host.Shell.Tool.Search

/-!
# Goals of a search

What is looked for among files, and what is done with what is found.
-/

namespace TraceAdapter
namespace Shell
namespace Tool

inductive Compared where
  | exactly (n : Nat)
  | more (n : Nat)
  | less (n : Nat)

namespace Compared

def ofWord? : List Char -> Option Compared
  | '+' :: ds => (natural? ds).map .more
  | '-' :: ds => (natural? ds).map .less
  | ds => (natural? ds).map .exactly

def holds (c : Compared) (m : Nat) : Bool :=
  match c with
  | exactly n => m = n
  | more n => n < m
  | less n => m < n

end Compared

inductive Goal where
  | always (b : Bool)
  | name (ignoreCase : Bool) (pattern : List Char)
  | path (ignoreCase : Bool) (pattern : List Char)
  | regex (r : Regex)
  | kind (letters : List Char)
  | empty
  | size (c : Compared) (unit : Nat)
  | age (c : Compared) (unit : Nat)
  | newer (than : Int)
  | mode (sign : Option Char) (bits : Nat)
  | names (c : Compared)
  | same (place : List String)
  | runnable
  | print (ending : Char)
  | printFormat (format : List Char)
  | run (inside : Bool) (words : List (List Char))
  | runTogether (number : Nat) (words : List (List Char))
  | delete
  | prune
  | quit
  | negation (g : Goal)
  | both (a b : Goal)
  | either (a b : Goal)
  | afterwards (a b : Goal)

structure Candidate where
  path : List Char
  root : List Char
  place : List String
  node : Node
  depth : Nat

structure Seeking where
  pruned : Bool := false
  ended : Bool := false
  failed : Bool := false
  together : List (Nat × List (List Char)) := []

/-!
## Formats
-/

namespace Candidate

def name (c : Candidate) : List Char :=
  if c.path.all (· = '/') then ['/'] else lastPart c.path

def kind (c : Candidate) : Char :=
  match c.node.content with
  | .directory => 'd'
  | .link _ => 'l'
  | .device _ => 'c'
  | _ => 'f'

def part (files : Files) (c : Candidate) (letter : Char) : List Char :=
  let stat (letter : Char) : List Char := statPart files c.path c.place c.node letter
  match letter with
  | 'p' => c.path
  | 'f' => c.name
  | 'h' => if c.path.contains '/' then frontPart c.path else ['.']
  | 'P' => (c.path.drop c.root.length).dropWhile (· = '/')
  | 'H' => c.root
  | 'd' => digits c.depth
  | 'y' => [c.kind]
  | 'm' => modeDigits c.node
  | 'M' => modeLetters c.node
  | 'l' =>
      match c.node.content with
      | .link path => Bytes.toChars (Utf8.encode path)
      | _ => []
  | 'n' => stat 'h'
  | 'u' => stat 'U'
  | 'g' => stat 'G'
  | 'U' => stat 'u'
  | 'G' => stat 'g'
  | 'k' => digits ((sizeOfNode c.node + 4095) / 4096 * 4)
  | 't' => (Moment.ofTime c.node.modified).format "%a %b %e %H:%M:%S.%N0 %Y".toList
  | '%' => ['%']
  | _ => if "sib".toList.contains letter then stat letter else ['%', letter]

def fill (files : Files) (c : Candidate) : Nat -> List Char -> List Char
  | 0, _ => []
  | fuel + 1, cs =>
      match cs with
      | '%' :: 'T' :: letter :: rest =>
          let time :=
            if letter = '@' then
              (Numeral.signedDecimal (c.node.modified / 1000)).toList ++ ".0000000000".toList
            else (Moment.ofTime c.node.modified).format ['%', letter]
          time ++ c.fill files fuel rest
      | '%' :: rest =>
          let (flags, rest) := rest.span fun d => d = '-' || d.isDigit
          match rest with
          | letter :: rest =>
              let width := (natural? (flags.filter Char.isDigit)).getD 0
              Shell.pad (flags.contains '-') width (c.part files letter) ++ c.fill files fuel rest
          | [] => ['%']
      | d :: rest => d :: c.fill files fuel rest
      | [] => []

end Candidate

/-!
## Running programs
-/

def braces : List Char := ['\x7b', '\x7d']

/-- A text with another one in the place of a mark.  The fuel bounds the length. -/
def substituted (mark text : List Char) : Nat -> List Char -> List Char
  | 0, cs => cs
  | _, [] => []
  | fuel + 1, c :: cs =>
      if ! mark.isEmpty ∧ mark.isPrefixOf (c :: cs) then
        text ++ substituted mark text fuel ((c :: cs).drop mark.length)
      else c :: substituted mark text fuel cs

def withPath (path : List Char) (words : List (List Char)) : List (List Char) :=
  words.map fun w => substituted braces path (w.length + 1) w

/-- Run a program on paths; whether it went well. -/
def runFor (launch : Launcher) (name : List Char) (words : List (List Char)) :
    Action Bool := do
  match words with
  | [] => return false
  | program :: words =>
      match ← launch program words with
      | none => return (← get).status = 0
      | some e =>
          warn name (inQuotes program ++ ": ".toList ++ reason e)
          return false

def runInside (launch : Launcher) (name : List Char) (c : Candidate)
    (words : List (List Char)) : Action Bool := do
  let before := (← get).files.here
  modify fun s => { s with files := { s.files with here := c.place.dropLast } }
  let good ← runFor launch name (withPath ("./".toList ++ c.name) words)
  modify fun s => { s with files := { s.files with here := before } }
  return good

/-- Take away what was found; whether it is gone. -/
def removeFound (name : List Char) (c : Candidate) : Action Bool := do
  if c.path = ['.'] then return true
  match ← attempt (if c.node.isDirectory then takeAwayEmpty c.path else takeAway c.path) with
  | none => return true
  | some e =>
      warn name ("cannot delete ".toList ++ inQuotes c.path ++ ": ".toList ++ reason e)
      return false

/-!
## Meeting goals
-/

def Seeking.keep (k : Seeking) (number : Nat) (path : List Char) : Seeking :=
  let before := (k.together.lookup number).getD []
  { k with
    together := (number, before ++ [path]) :: k.together.filter fun t => t.1 ≠ number }

namespace Goal

/-- Whether a text fits a pattern, letters of both cases being the same if that is
asked for. -/
def fitsText (ignoreCase : Bool) (pattern text : List Char) : Bool :=
  let lower (cs : List Char) : List Char := if ignoreCase then cs.map Char.toLower else cs
  fitsPattern (lower pattern) (lower text)

/-- Whether the bits of a mode are as asked for: all of them, some of them, or no
others. -/
def fitsMode (sign : Option Char) (bits mode : Nat) : Bool :=
  match sign with
  | some '-' => mode &&& bits = bits
  | some '/' => bits = 0 || mode &&& bits ≠ 0
  | _ => mode = bits

/-- Whether what was come across meets a goal that only looks. -/
def looks (files : Files) (c : Candidate) : Goal -> Bool
  | .always b => b
  | .name ignoreCase pattern => fitsText ignoreCase pattern c.name
  | .path ignoreCase pattern => fitsText ignoreCase pattern c.path
  | .regex r =>
      let t : Regex.Subject := { chars := c.path.toArray }
      (Regex.matchAtWith? (· = t.chars.size) r t 0).isSome
  | .kind letters => letters.contains c.kind
  | .empty =>
      if c.node.isDirectory then isEmptyAt files c.place
      else c.node.isFile && c.node.bytes.isEmpty
  | .size s unit => s.holds ((sizeOfNode c.node + unit - 1) / unit)
  | .age s unit => s.holds ((files.clock - c.node.modified).toNat / unit)
  | .newer t => t < c.node.modified
  | .mode sign bits => fitsMode sign bits c.node.mode
  | .names s => s.holds (nameCount files c.place)
  | .same place =>
      place = c.place ||
        ((files.number? place).isSome && files.number? place = files.number? c.place)
  | .runnable => c.node.isDirectory || c.node.isRunnable
  | _ => true

def holds (launch : Launcher) (name : List Char) (c : Candidate) :
    Goal -> Seeking -> Action (Bool × Seeking)
  | .print ending, k => do
      emit (c.path ++ [ending])
      return (true, k)
  | .printFormat format, k => do
      let filled := c.fill (← get).files (format.length + 1) format
      emit (Item.chars (Item.scan false filled))
      return (true, k)
  | .run false words, k => return (← runFor launch name (withPath c.path words), k)
  | .run true words, k => return (← runInside launch name c words, k)
  | .runTogether number _, k => return (true, k.keep number c.path)
  | .delete, k => do
      let good ← removeFound name c
      return (good, { k with failed := k.failed || ! good })
  | .prune, k => return (true, { k with pruned := true })
  | .quit, k => return (true, { k with ended := true })
  | .negation g, k => do
      let (b, k) ← g.holds launch name c k
      return (! b, k)
  | .both a b, k => do
      let (x, k) ← a.holds launch name c k
      if x ∧ ! k.ended then b.holds launch name c k else return (x, k)
  | .either a b, k => do
      let (x, k) ← a.holds launch name c k
      if x then return (true, k) else b.holds launch name c k
  | .afterwards a b, k => do
      let (_, k) ← a.holds launch name c k
      b.holds launch name c k
  | g, k => return (g.looks (← get).files c, k)

def acts : Goal -> Bool
  | .print _ => true
  | .printFormat _ => true
  | .run _ _ => true
  | .runTogether _ _ => true
  | .delete => true
  | .negation g => g.acts
  | .both a b => a.acts || b.acts
  | .either a b => a.acts || b.acts
  | .afterwards a b => a.acts || b.acts
  | _ => false

def programs : Goal -> List (Nat × List (List Char))
  | .runTogether n words => [(n, words)]
  | .negation g => g.programs
  | .both a b => a.programs ++ b.programs
  | .either a b => a.programs ++ b.programs
  | .afterwards a b => a.programs ++ b.programs
  | _ => []

end Goal

end Tool
end Shell
end TraceAdapter
