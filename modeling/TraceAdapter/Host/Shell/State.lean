import TraceAdapter.Host.Files
import TraceAdapter.Host.Process
import TraceAdapter.Host.Shell.Command
import TraceAdapter.Text.Bytes

/-!
# Running shells

What a shell knows while it runs a script: its files, variables, functions and
options, and what its descriptors lead to.
-/

namespace TraceAdapter
namespace Shell

/-!
## Descriptors
-/

inductive Target where
  | stream (number : Nat)
  | text
  | file (number : Nat)
  | directory
  | device (d : Device)
  deriving DecidableEq, Repr

/-- Something that was opened.  Descriptors copied from each other share it. -/
structure Handle where
  target : Target
  reads : Bool := false
  writes : Bool := false
  appends : Bool := false
  position : Nat := 0
  unread : List Char := []
  cut : Bool := false
  deriving Repr

structure Stream where
  pieces : List (List Char) := []
  room? : Option Nat := none
  cut : Bool := false
  deriving Repr

namespace Stream

def text (t : Stream) : List Char := t.pieces.reverse.flatten

def add (t : Stream) (cs : List Char) : Stream :=
  match t.room? with
  | none => { t with pieces := cs :: t.pieces }
  | some room =>
      let kept := cs.take room
      { pieces := kept :: t.pieces
        room? := some (room - kept.length)
        cut := t.cut || kept.length < cs.length }

end Stream

/-!
## What a shell knows
-/

inductive Flow where
  | onward
  | leave (loops : Nat)
  | again (loops : Nat)
  | back
  | ended (fault? : Option ExitFault)
  | killed (number : Nat) (name : String)
  deriving DecidableEq, Repr

structure Job where
  process : Nat
  status : Nat
  ends : Int
  signal? : Option String := none
  deriving Repr

structure State where
  files : Files
  name : List Char
  arguments : List (List Char)
  line : Nat := 1
  bindings : List (List Char × List Char) := []
  exported : List (List Char) := []
  locked : List (List Char) := []
  functions : List (List Char × Command) := []
  aliases : List (List Char × List Char) := []
  options : List Char := []
  status : Nat := 0
  answer? : Option Nat := none
  loops : Nat := 0
  /-- What complaints begin with: the script being read inside the main one, or
  the command that gave the text being run. -/
  heading : List Char := []
  descriptors : List (Nat × Nat) := [(0, 0), (1, 1), (2, 2)]
  handles : List (Nat × Handle) :=
    [(0, { target := .text, reads := true }),
      (1, { target := .stream 1, writes := true }),
      (2, { target := .stream 2, writes := true })]
  streams : List (Nat × Stream) := []
  /-- How much a reader that never stops is given, and a writer that never stops
  may write. -/
  patience : Nat := 65536
  starved : Bool := false
  deadline? : Option Int := none
  expired : Bool := false
  flow : Flow := .onward
  faulted : Bool := false
  /-- The variables that functions being run have of their own, with the values
  that they had before. -/
  locals : List (List (List Char × Option (List Char))) := []
  /-- What is run at the end, under `EXIT`, and when signals arrive, under their
  names. -/
  traps : List (String × List Char) := []
  pending : List (List Char) := []
  jobs : List Job := []
  mask : Nat := 0o022
  limits : List (Char × List Char) := []
  /-- How far the options among words have been read: the number of the next word,
  and the place in the word before it, if there are more in it. -/
  scanned : Nat × Option Nat := (1, none)
  directory : List Char := []

namespace State

def goesOn (s : State) : Bool :=
  match s.flow with
  | .onward => ! s.expired
  | _ => false

def has (s : State) (option : Char) : Bool := s.options.contains option

def lookup? (s : State) (x : List Char) : Option (List Char) := s.bindings.lookup x

def unbind (s : State) (x : List Char) : State :=
  { s with bindings := s.bindings.filter fun b => b.1 ≠ x }

def separators (s : State) : List Char :=
  (s.lookup? ['I', 'F', 'S']).getD [' ', '\t', '\n']

def path (cs : List Char) : String := Utf8.lossy (Bytes.ofChars cs)

/-!
## Handle and closing
-/

def handle? (s : State) (descriptor : Nat) : Option Handle :=
  (s.descriptors.lookup descriptor).bind fun n => s.handles.lookup n

def point (s : State) (descriptor : Nat) (number? : Option Nat) : State :=
  let others := s.descriptors.filter fun d => d.1 ≠ descriptor
  { s with descriptors := number?.toList.map (fun n => (descriptor, n)) ++ others }

def install (s : State) (descriptor : Nat) (o : Handle) : State :=
  let number := s.handles.foldl (fun n e => max n (e.1 + 1)) 0
  { s with handles := (number, o) :: s.handles }.point descriptor (some number)

def update (s : State) (descriptor : Nat) (f : Handle -> Handle) : State :=
  match s.descriptors.lookup descriptor with
  | none => s
  | some n =>
      { s with handles := s.handles.map fun e => if e.1 = n then (n, f e.2) else e }

/-- Forget what no descriptor leads to any more, of what was opened after a time
when there was less. -/
def closeUnused (s : State) (before : List (Nat × Handle)) : State :=
  { s with
    handles := s.handles.filter fun e =>
      before.any (fun b => b.1 = e.1) || s.descriptors.any fun d => d.2 = e.1 }

def freshStream (s : State) : Nat :=
  s.streams.foldl (fun n t => max n (t.1 + 1)) 3

def stream (s : State) (number : Nat) : Stream := (s.streams.lookup number).getD {}

def setStream (s : State) (number : Nat) (t : Stream) : State :=
  { s with streams := (number, t) :: s.streams.filter fun e => e.1 ≠ number }

def dropStream (s : State) (number : Nat) : State :=
  { s with streams := s.streams.filter fun e => e.1 ≠ number }

/-!
## Reading
-/

def bytesOf (s : State) (number : Nat) : List UInt8 :=
  ((s.files.nodes.lookup number).map Node.bytes).getD []

def readFault? (s : State) (descriptor : Nat) : Option OsError :=
  match s.handle? descriptor with
  | none => some .badDescriptor
  | some o =>
      if ! o.reads then some .badDescriptor
      else if o.target = .directory then some .isADirectory
      else none

def unread (s : State) (descriptor : Nat) : List Char × Bool :=
  match s.handle? descriptor with
  | none => ([], false)
  | some o =>
      if ! o.reads then ([], false)
      else
        match o.target with
        | .text => (o.unread, o.cut)
        | .file number => (Bytes.toChars ((s.bytesOf number).drop o.position), false)
        | .device .zero => (List.replicate (s.patience + 1) (Char.ofNat 0), true)
        | .device .full => (List.replicate (s.patience + 1) (Char.ofNat 0), true)
        | .device .random => (List.replicate (s.patience + 1) 'r', true)
        | _ => ([], false)

def advance (s : State) (descriptor count : Nat) : State :=
  s.update descriptor fun o =>
    match o.target with
    | .text => { o with unread := o.unread.drop count }
    | _ => { o with position := o.position + count }

def readAll (s : State) (descriptor : Nat) : List Char × State :=
  let (cs, cut) := s.unread descriptor
  (cs, { s.advance descriptor cs.length with starved := s.starved || cut })

/-- Let something that reads in order take from a descriptor: it says what is left
when it has stopped, nothing when it wanted more than there is. -/
def readWith {α : Type} (s : State) (descriptor : Nat)
    (take : List Char -> α × Option (List Char)) : α × State :=
  let (cs, cut) := s.unread descriptor
  match take cs with
  | (a, some rest) => (a, s.advance descriptor (cs.length - rest.length))
  | (a, none) =>
      (a, { s.advance descriptor cs.length with starved := s.starved || cut })

/-!
## Writing
-/

def writeFault? (s : State) (descriptor : Nat) : Option OsError :=
  match s.handle? descriptor with
  | none => some .badDescriptor
  | some o =>
      if ! o.writes then some .badDescriptor
      else if o.target = .device .full then some .noSpace
      else none

def overwritten (before : List UInt8) (position : Nat) (bytes : List UInt8) :
    List UInt8 :=
  before.take position ++ List.replicate (position - before.length) 0 ++ bytes ++
    before.drop (position + bytes.length)

def write (s : State) (descriptor : Nat) (cs : List Char) : State :=
  match s.handle? descriptor with
  | none => s
  | some o =>
      if ! o.writes || cs.isEmpty then s
      else
        match o.target with
        | .stream number =>
            let t := (s.stream number).add cs
            let s := s.setStream number t
            if t.cut ∧ s.goesOn then
              { s with flow := .ended (some (.signal 13 "SIGPIPE")) }
            else s
        | .file number =>
            let before := s.bytesOf number
            let position := if o.appends then before.length else o.position
            let bytes := Bytes.ofChars cs
            { s with
              files := s.files.rewrite number (overwritten before position bytes) }.update
              descriptor fun o => { o with position := position + bytes.length }
        | _ => s

/-- Write a complaint of a command under the name of the script and the
line. -/
def complainOf (s : State) (command cs : List Char) : State :=
  s.write 2
    (List.intercalate [':', ' ']
        ([s.name, (Numeral.decimal s.line).toList] ++
          (if command.isEmpty then [] else [command]) ++ [cs]) ++ ['\n'])

def complain (s : State) (cs : List Char) : State := s.complainOf s.heading cs

/-!
## Ends
-/

def exitFault (status : Nat) : Option ExitFault :=
  if status % 256 = 0 then none else some (.status (status % 256))

def exit (s : State) (status : Nat) : State :=
  { s with status, flow := .ended (exitFault status) }

def giveUp (s : State) : State := { s.exit 2 with faulted := true }

def fail (s : State) (cs : List Char) : State := (s.complain cs).giveUp

def statusOf : Option ExitFault -> Nat
  | none => 0
  | some (.status code) => code
  | some (.signal number _) => 128 + number

/-!
## Variables
-/

def put (s : State) (x value : List Char) : State :=
  { s with
    bindings := (x, value) :: s.bindings.filter fun b => b.1 ≠ x
    exported := if s.has 'a' then x :: s.exported else s.exported
    scanned :=
      if x = "OPTIND".toList then ((Numeral.ofDigits? 10 value).getD 1, none)
      else s.scanned }

/-- Give a variable a value, unless it is to keep the one that it has. -/
def bind (s : State) (x value : List Char) : State :=
  if s.locked.contains x then s.fail (x ++ ": is read only".toList) else s.put x value

def restore (s : State) (saved : List Char × Option (List Char)) : State :=
  match saved.2 with
  | some value => s.put saved.1 value
  | none => s.unbind saved.1

def environment (s : State) : List (List Char × List Char) :=
  s.bindings.filter fun b => s.exported.contains b.1

end State

abbrev Action := StateM State

end Shell
end TraceAdapter
