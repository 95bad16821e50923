import TraceAdapter.Toml.Scalar
import TraceAdapter.Toml.Table
import TraceAdapter.Toml.Token

/-!
# Reading TOML

A TOML text is a list of statements, one on a line: headers, which open a
table, and keys with values, which go into the open table.
-/

namespace TraceAdapter
namespace Toml

open Json (Document)

/-- At most this many parts may a key have, and this many arrays and inline
tables may be open at once. -/
def depthLimit : Nat := 79

def skipBlank : List Token -> List Token
  | .blank _ :: rest => rest
  | ts => ts

def skipLines (ts : List Token) : List Token :=
  ts.dropWhile fun
    | .blank _ => true
    | .newline => true
    | _ => false

/-!
## Keys
-/

def isKeyChar (c : Char) : Bool := c.isAlphanum || c = '_' || c = '-'

inductive KeyPart where
  | name (s : String)
  | dot
  deriving DecidableEq, Repr

def partsOfAtom (cs : List Char) : List KeyPart :=
  let close (name : List Char) (parts : List KeyPart) : List KeyPart :=
    if name.isEmpty then parts else .name (String.ofList name) :: parts
  let (name, parts) := cs.foldr
    (fun c (name, parts) =>
      if c = '.' then (([] : List Char), KeyPart.dot :: close name parts)
      else (c :: name, parts))
    ([], [])
  close name parts

def spanKey : List Token -> List KeyPart × List Token
  | .atom cs :: rest =>
      let (parts, left) := spanKey rest
      (partsOfAtom cs ++ parts, left)
  | .text s false :: rest =>
      let (parts, left) := spanKey rest
      (.name s :: parts, left)
  | .blank _ :: rest => spanKey rest
  | ts => ([], ts)

def names? : List KeyPart -> Option (List String)
  | [.name s] => some [s]
  | .name s :: .dot :: rest => (names? rest).map (s :: ·)
  | _ => none

def isBareKey : List Token -> Bool
  | .atom cs :: rest => cs.all (fun c => isKeyChar c || c = '.') && isBareKey rest
  | .text _ false :: rest => isBareKey rest
  | .blank _ :: rest => isBareKey rest
  | _ => true

/-- A key: the names on the way and the last one.  With them the rest. -/
def key? (ts : List Token) : Option (List String × String × List Token) :=
  let (parts, rest) := spanKey ts
  match names? parts with
  | some (first :: more) =>
      let all := first :: more
      if isBareKey ts ∧ all.length ≤ depthLimit then
        some (all.dropLast, all.getLastD first, rest)
      else none
  | _ => none

/-!
## Values
-/

def scalar? : List Token -> Option (Document × List Token)
  | .text s _ :: rest => some (.string (.plain s), rest)
  | .atom date :: .blank [' '] :: .atom time :: rest =>
      if Scalar.isDate date ∧ Scalar.isTime time true then some (Scalar.moment, rest)
      else (Scalar.ofAtom? date).map fun d => (d, .blank [' '] :: .atom time :: rest)
  | .atom cs :: rest => (Scalar.ofAtom? cs).map fun d => (d, rest)
  | _ => none

abbrev Reader := List Token -> Option (Document × List Token)

def items? (item : Reader) : Nat -> List Token -> Option (List Document × List Token)
  | 0, _ => none
  | n + 1, ts =>
      match skipLines ts with
      | .sign ']' :: rest => some ([], rest)
      | ts =>
          match item ts with
          | none => none
          | some (d, rest) =>
              match skipLines rest with
              | .sign ']' :: rest => some ([d], rest)
              | .sign ',' :: rest =>
                  (items? item n rest).map fun (ds, rest) => (d :: ds, rest)
              | _ => none

def pair? (item : Reader) (ts : List Token) :
    Option ((List String × String × Document) × List Token) :=
  match key? ts with
  | some (path, key, .sign '=' :: rest) =>
      (item (skipBlank rest)).map fun (d, rest) => ((path, key, d), rest)
  | _ => none

/-- The entries of an inline table, after those already read, and its closing
brace. -/
def inline? (item : Reader) (entries : Entries) :
    Nat -> List Token -> Option (Entries × List Token)
  | 0, _ => none
  | n + 1, ts =>
      match pair? item ts with
      | none => none
      | some ((path, key, d), rest) =>
          match Entries.insert path key d entries, skipBlank rest with
          | some entries, .sign '}' :: rest => some (entries, rest)
          | some entries, .sign ',' :: rest => inline? item entries n rest
          | _, _ => none

/-- A value in which so many more arrays and inline tables may be open. -/
def value? : Nat -> Reader
  | room, .sign '[' :: rest =>
      match room with
      | 0 => none
      | room + 1 =>
          (items? (value? room) (rest.length + 1) rest).map fun (ds, rest) =>
            (.array ds true, rest)
  | room, .sign '{' :: rest =>
      match room with
      | 0 => none
      | room + 1 =>
          match skipBlank rest with
          | .sign '}' :: rest => some (.object [] true, rest)
          | rest =>
              (inline? (value? room) [] (rest.length + 1) rest).map fun (es, rest) =>
                ((Node.table .header es).toDocument, rest)
  | _, ts => scalar? ts

/-!
## Statements
-/

structure State where
  entries : Entries := []
  table : List String := []

def isLineEnd (ts : List Token) : Bool :=
  match skipBlank ts with
  | [] => true
  | .newline :: _ => true
  | _ => false

def header? (s : State) (ts : List Token) : Option (State × List Token) :=
  match key? ts with
  | some (path, key, .sign ']' :: rest) =>
      (Entries.openTable path key s.entries).map fun entries =>
        (⟨entries, path ++ [key]⟩, rest)
  | _ => none

def itemHeader? (s : State) (ts : List Token) : Option (State × List Token) :=
  match key? ts with
  | some (path, key, .sign ']' :: .sign ']' :: rest) =>
      (Entries.openItem path key s.entries).map fun entries =>
        (⟨entries, path ++ [key]⟩, rest)
  | _ => none

def statement? (s : State) (ts : List Token) : Option (State × List Token) :=
  match ts with
  | .sign '[' :: .sign '[' :: rest => itemHeader? s rest
  | .sign '[' :: rest => header? s rest
  | _ =>
      match pair? (value? depthLimit) ts with
      | none => none
      | some ((path, key, d), rest) =>
          (Entries.insertAt s.table path key d s.entries).map fun entries =>
            ({ s with entries }, rest)

def statements? (s : State) : Nat -> List Token -> Option Entries
  | 0, _ => none
  | n + 1, ts =>
      match skipLines ts with
      | [] => some s.entries
      | ts =>
          match statement? s ts with
          | none => none
          | some (s, rest) => if isLineEnd rest then statements? s n rest else none

/-- Read a text, none when it is not TOML. -/
def read? (text : String) : Option Document :=
  (Token.scan? text).bind fun ts =>
    (statements? {} (ts.length + 1) ts).map fun entries =>
      (Node.table .header entries).toDocument

end Toml
end TraceAdapter
