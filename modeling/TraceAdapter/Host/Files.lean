import TraceAdapter.Host.OsError
import TraceAdapter.Host.Path
import TraceAdapter.Host.System

/-!
# Files

A file system: names lead from the root to nodes.  Several names may lead to one
node, and a node stays when its names are taken away.  What every system has is
there below what is known besides.
-/

namespace TraceAdapter

/-- Something given at a path: the bytes of a file, or a directory. -/
inductive Files.Entry where
  | file (bytes : List UInt8)
  | directory
  deriving DecidableEq, Repr

structure Files where
  places : List (List String × Nat) := []
  nodes : List (Nat × Node) := []
  here : List String := ["tmp", "work"]
  clock : Int := 1750000000000
  deriving Repr

namespace Files

/-!
## Nodes
-/

def number? (files : Files) (place : List String) : Option Nat :=
  files.places.lookup place

/-- The node at a place.  The working directory is always there. -/
def at? (files : Files) (place : List String) : Option Node :=
  match (files.number? place).bind fun n => files.nodes.lookup n with
  | some node => some node
  | none =>
      match System.node? place with
      | some node => some node
      | none => if place.isPrefixOf files.here then some .directory else none

def isDirectoryAt (files : Files) (place : List String) : Bool :=
  (files.at? place).any Node.isDirectory

/-- The names of what stands in a directory, in no order, perhaps repeated. -/
def names (files : Files) (place : List String) : List String :=
  (files.places.filterMap fun e =>
      if e.1.length = place.length + 1 ∧ place.isPrefixOf e.1 then e.1.getLast? else none)
    ++ System.names place

def freshNumber (files : Files) : Nat :=
  files.nodes.foldl (fun n e => max n (e.1 + 1)) 0

def point (files : Files) (place : List String) (number : Nat) : Files :=
  { files with
    places := (place, number) :: files.places.filter fun e => e.1 ≠ place }

/-- Put a new node at a place, instead of what stands there. -/
def put (files : Files) (place : List String) (node : Node) : Files :=
  let number := files.freshNumber
  { files with nodes := (number, { node with modified := files.clock }) :: files.nodes }.point
    place number

def change (files : Files) (number : Nat) (f : Node -> Node) : Files :=
  { files with
    nodes := files.nodes.map fun e => if e.1 = number then (e.1, f e.2) else e }

def rewrite (files : Files) (number : Nat) (bytes : List UInt8) : Files :=
  files.change number fun node =>
    { node with content := .file bytes, modified := files.clock }

def erase (files : Files) (place : List String) : Files :=
  { files with places := files.places.filter fun e => e.1 ≠ place }

def eraseBelow (files : Files) (place : List String) : Files :=
  { files with places := files.places.filter fun e => ! place.isPrefixOf e.1 }

def move (files : Files) (source target : List String) : Files :=
  let cleared := files.eraseBelow target
  { cleared with
    places := cleared.places.map fun e =>
      if source.isPrefixOf e.1 then (target ++ e.1.drop source.length, e.2) else e }

/-!
## Places
-/

def place (here : List String) (p : String) : List String :=
  (Path.components p).foldl
    (fun place component =>
      match component with
      | .root => []
      | .current => place
      | .parent => place.dropLast
      | .name s => place ++ [s])
    here

def withDirectories (files : Files) (place : List String) : Files :=
  (List.range place.length).foldl
    (fun files n =>
      if (files.at? (place.take n)).isSome then files
      else files.put (place.take n) .directory)
    files

/-- Add a file or a directory at a path, with the directories above it. -/
def add (files : Files) (p : String) (entry : Entry) : Files :=
  let place := place files.here p
  (files.withDirectories place).put place
    (match entry with
    | .file bytes => { content := .file bytes, mode := Node.fileMode }
    | .directory => .directory)

/-- Files below the working directory, given by their paths. -/
def ofList (entries : List (String × Entry)) : Files :=
  entries.foldl (fun files e => files.add e.1 e.2) {}

/-!
## Paths
-/

def maxName : Nat := 255

def maxPath : Nat := 4095

def maxLinks : Nat := 40

inductive Reached where
  | present (place : List String)
  | absent (place : List String)
  deriving DecidableEq, Repr

/-- Follow the components of a path from a place as far as the first link that
counts, at which `onward` takes over.  Only a directory can be searched for a
name, however long the name is. -/
def followTo (files : Files) (last : Bool)
    (onward : List String -> List Path.Component -> Except OsError Reached)
    (place : List String) : List Path.Component -> Except OsError Reached
  | [] => .ok (.present place)
  | .current :: rest => followTo files last onward place rest
  | .root :: rest => followTo files last onward [] rest
  | .parent :: rest =>
      if files.isDirectoryAt place then followTo files last onward place.dropLast rest
      else .error .notADirectory
  | .name s :: rest =>
      if ! files.isDirectoryAt place then .error .notADirectory
      else if maxName < (Utf8.encode s).length then .error .nameTooLong
      else
        match files.at? (place ++ [s]) with
        | none =>
            if rest.isEmpty then .ok (.absent (place ++ [s])) else .error .notFound
        | some node =>
            match node.content with
            | .link path =>
                if rest.isEmpty ∧ ! last then .ok (.present (place ++ [s]))
                else onward place (Path.components path ++ rest)
            | _ => followTo files last onward (place ++ [s]) rest

/-- Follow the components of a path from a place.  A link is followed, at the end
of a path only when that is asked for, and no more links than some number. -/
def follow (files : Files) (last : Bool) :
    Nat -> List String -> List Path.Component -> Except OsError Reached
  | 0 => files.followTo last fun _ _ => .error .linksTooDeep
  | links + 1 => files.followTo last (files.follow last links)

def wantsDirectory (p : String) : Bool :=
  "/".toList.isSuffixOf p.toList || "/.".toList.isSuffixOf p.toList

def reach (files : Files) (last : Bool) (p : String) : Except OsError Reached :=
  if p.toList.any (· = Char.ofNat 0) then .error .zeroInName
  else if p.isEmpty then .error .notFound
  else if maxPath < (Utf8.encode p).length then .error .nameTooLong
  else files.follow (last || wantsDirectory p) maxLinks files.here (Path.components p)

def find (files : Files) (p : String) : Except OsError (List String) :=
  match files.reach true p with
  | .error e => .error e
  | .ok (.absent _) => .error .notFound
  | .ok (.present place) => .ok place

/-- The node that a path leads to, a link at its end followed or not. -/
def nodeOf (files : Files) (last : Bool) (p : String) : Except OsError Node :=
  match files.reach last p with
  | .error e => .error e
  | .ok (.absent _) => .error .notFound
  | .ok (.present place) =>
      match files.at? place with
      | none => .error .notFound
      | some node =>
          if wantsDirectory p ∧ ! node.isDirectory then .error .notADirectory
          else .ok node

def lookup (files : Files) (p : String) : Except OsError Node := files.nodeOf true p

def inspect (files : Files) (p : String) : Except OsError Node := files.nodeOf false p

def isFile (files : Files) (p : String) : Bool :=
  match files.lookup p with
  | .ok node => node.isFile
  | .error _ => false

def isDirectory (files : Files) (p : String) : Bool :=
  match files.lookup p with
  | .ok node => node.isDirectory
  | .error _ => false

def contains (files : Files) (p : String) : Bool := (files.lookup p).isOk

/-- Whether a file may be opened for writing at a path, its directories being
made first. -/
def canHold (files : Files) (p : String) : Bool :=
  let names := place files.here p
  ! files.isDirectoryAt names &&
    (List.range names.length).all fun n =>
      match files.at? (names.take n) with
      | some node => node.isDirectory || node.isLink
      | none => true

/-!
## Reading
-/

def read (files : Files) (p : String) : Except OsError (List UInt8) :=
  match files.lookup p with
  | .error e => .error e
  | .ok node =>
      match node.content with
      | .directory => .error .isADirectory
      | .device .terminal => .error .noDevice
      | _ => .ok node.bytes

def readText (files : Files) (p : String) : Except OsError String :=
  match files.read p with
  | .error e => .error e
  | .ok bytes =>
      match Utf8.decode bytes with
      | .ok s => .ok s
      | .error _ => .error .notText

end Files
end TraceAdapter
