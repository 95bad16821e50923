/-!
# Nodes

What the names of a file system lead to.
-/

namespace TraceAdapter

inductive Device where
  | null
  | zero
  | full
  | random
  | terminal
  deriving DecidableEq, Repr

inductive Node.Content where
  | file (bytes : List UInt8)
  | directory
  /-- A path that is followed instead. -/
  | link (path : String)
  | device (d : Device)
  | program (name : String)
  deriving DecidableEq, Repr

structure Node where
  content : Node.Content
  mode : Nat
  modified : Int := 0
  deriving DecidableEq, Repr

namespace Node

def isDirectory (n : Node) : Bool := n.content matches .directory

def isLink (n : Node) : Bool := n.content matches .link _

def isFile (n : Node) : Bool := n.content matches .file _ || n.content matches .program _

def isRunnable (n : Node) : Bool := n.isFile && n.mode &&& 0o111 ≠ 0

def fileMode : Nat := 0o644

def directoryMode : Nat := 0o755

def directory : Node := { content := .directory, mode := directoryMode }

def programBytes : List UInt8 := [0x7f, 0x45, 0x4c, 0x46, 2, 1, 1, 0, 0xf8]

/-- The bytes that can be read from a node, as far as they end. -/
def bytes (n : Node) : List UInt8 :=
  match n.content with
  | .file bytes => bytes
  | .program _ => programBytes
  | _ => []

end Node
end TraceAdapter
