import TraceAdapter.Text.Blank

/-!
# Paths

A path is a text whose parts are divided by slashes.  Empty parts say nothing,
and neither does a dot, except in front of a relative path.
-/

namespace TraceAdapter
namespace Path

inductive Component where
  | root
  | current
  | parent
  | name (s : String)
  deriving DecidableEq, Repr

def splitSlashes : List Char -> List (List Char)
  | [] => [[]]
  | '/' :: cs => [] :: splitSlashes cs
  | c :: cs =>
      match splitSlashes cs with
      | piece :: rest => (c :: piece) :: rest
      | [] => [[c]]

/-- The component that a piece is, none for a piece that says nothing. -/
def Component.ofPiece? (piece : List Char) : Option Component :=
  if piece = [] ∨ piece = ['.'] then none
  else if piece = ['.', '.'] then some .parent
  else some (.name (String.ofList piece))

def isAbsolute (p : String) : Bool := p.toList.head? = some '/'

def components (p : String) : List Component :=
  let pieces := splitSlashes p.toList
  let start : List Component :=
    if isAbsolute p then [.root]
    else if pieces.head? = some ['.'] then [.current]
    else []
  start ++ pieces.filterMap Component.ofPiece?

def fileName? (p : String) : Option String :=
  match (components p).getLast? with
  | some (.name s) => some s
  | _ => none

def Component.text : Component -> String
  | root => "/"
  | current => "."
  | parent => ".."
  | name s => s

def ofComponents : List Component -> String
  | .root :: rest => "/" ++ "/".intercalate (rest.map Component.text)
  | cs => "/".intercalate (cs.map Component.text)

/-- The path without its last component; none for a path without components
and for the root. -/
def parent? (p : String) : Option String :=
  match (components p).reverse with
  | [] => none
  | [.root] => none
  | _ :: front => some (ofComponents front.reverse)

def join (base p : String) : String :=
  if isAbsolute p then p
  else if base.isEmpty then p
  else if base.toList.getLast? = some '/' then base ++ p
  else base ++ "/" ++ p

def endsWith (p ending : String) : Bool :=
  (components ending).isSuffixOf (components p)

end Path
end TraceAdapter
