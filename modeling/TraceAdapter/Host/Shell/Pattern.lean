/-!
# Patterns of shell scripts

A pattern is a text in which a star stands for any characters, a question mark
for one, and brackets for one of those that stand between them.  Quoted
characters stand for themselves.
-/

namespace TraceAdapter
namespace Shell

inductive Wildcard where
  | exact (c : Char)
  | one
  | many
  | oneOf (negated : Bool) (ranges : List (Char × Char))
  deriving DecidableEq, Repr

abbrev Marked := Char × Bool

namespace Wildcard

def classRanges (name : List Char) : List (Char × Char) :=
  match String.ofList name with
  | "alpha" => [('a', 'z'), ('A', 'Z')]
  | "digit" => [('0', '9')]
  | "alnum" => [('a', 'z'), ('A', 'Z'), ('0', '9')]
  | "lower" => [('a', 'z')]
  | "upper" => [('A', 'Z')]
  | "space" => [(' ', ' '), ('\t', '\r')]
  | "blank" => [(' ', ' '), ('\t', '\t')]
  | "xdigit" => [('0', '9'), ('a', 'f'), ('A', 'F')]
  | "punct" => [('!', '/'), (':', '@'), ('[', Char.ofNat 96), ('\x7b', '~')]
  | _ => []

/-- The ranges up to the closing bracket, and what follows it; none when there
is no such bracket.  `first` says that none has been read. -/
def readRanges : Nat -> Bool -> List Marked -> Option (List (Char × Char) × List Marked)
  | 0, _, _ => none
  | _, _, [] => none
  | fuel + 1, first, (c, active) :: rest =>
      if c = ']' ∧ active ∧ ¬ first then some ([], rest)
      else
        match (if c = '[' then rest else []), rest with
        | (':', _) :: named, _ =>
            let name := (named.takeWhile fun m => m.1 ≠ ':').map Prod.fst
            (readRanges fuel false (named.drop (name.length + 2))).map
              fun (rs, left) => (classRanges name ++ rs, left)
        | _, ('-', _) :: (d, closes) :: more =>
            if d = ']' ∧ closes then
              (readRanges fuel false rest).map fun (rs, left) => ((c, c) :: rs, left)
            else
              (readRanges fuel false more).map fun (rs, left) => ((c, d) :: rs, left)
        | _, _ =>
            (readRanges fuel false rest).map fun (rs, left) => ((c, c) :: rs, left)

/-- The parts of a pattern.  The fuel bounds the number of characters. -/
def read : Nat -> List Marked -> List Wildcard
  | 0, _ => []
  | _, [] => []
  | fuel + 1, (c, active) :: rest =>
      if ! active then exact c :: read fuel rest
      else if c = '*' then many :: read fuel rest
      else if c = '?' then one :: read fuel rest
      else if c = '[' then
        let (negated, inner) :=
          match rest with
          | ('!', _) :: more => (true, more)
          | more => (false, more)
        match readRanges (inner.length + 1) true inner with
        | some (ranges, rest) => oneOf negated ranges :: read fuel rest
        | none => exact c :: read fuel rest
      else exact c :: read fuel rest

def ofMarked (cs : List Marked) : List Wildcard := read (cs.length + 1) cs

def fits (c : Char) : Wildcard -> Bool
  | exact d => c = d
  | one => true
  | many => true
  | oneOf negated ranges =>
      (ranges.any fun r => r.1 ≤ c && c ≤ r.2) != negated

def fitsAll : List Wildcard -> List Char -> Bool
  | [], [] => true
  | [], _ :: _ => false
  | many :: ws, [] => fitsAll ws []
  | many :: ws, c :: cs => fitsAll ws (c :: cs) || fitsAll (many :: ws) cs
  | _ :: _, [] => false
  | w :: ws, c :: cs => fits c w && fitsAll ws cs
termination_by ws cs => ws.length + cs.length

def isPattern (cs : List Marked) : Bool :=
  cs.any fun m => m.2 && (m.1 = '*' || m.1 = '?' || m.1 = '[')

def cutFront (longest : Bool) (ws : List Wildcard) (cs : List Char) : List Char :=
  let sizes := List.range (cs.length + 1)
  let sizes := if longest then sizes.reverse else sizes
  match sizes.find? fun n => fitsAll ws (cs.take n) with
  | some n => cs.drop n
  | none => cs

def cutBack (longest : Bool) (ws : List Wildcard) (cs : List Char) : List Char :=
  let sizes := List.range (cs.length + 1)
  let sizes := if longest then sizes else sizes.reverse
  match sizes.find? fun n => fitsAll ws (cs.drop n) with
  | some n => cs.take n
  | none => cs

end Wildcard
end Shell
end TraceAdapter
