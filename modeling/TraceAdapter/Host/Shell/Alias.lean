import TraceAdapter.Host.Shell.Command

/-!
# Aliases

A word in the place of a command may stand for a text, which is read in its
place before the grammar is looked at.
-/

namespace TraceAdapter
namespace Shell
namespace Alias

def leading : List String :=
  ["!", "do", "elif", "else", "if", "then", "until", "while", "\x7b"]

def isAssignment (text : List Char) : Bool :=
  match text.span (· ≠ '=') with
  | (name, _ :: _) => isName name
  | (_, []) => false

def tokensOf (line : Nat) (text : List Char) : List Located :=
  ((Token.scan 1 text).filter fun t => ! (t.token matches .finish)).map fun t =>
    { t with line }

abbrev Table := List (List Char × List Char)

/-- Put texts in the place of words that stand for them, words in those texts being
treated as given.  `atCommand` says that a command begins here, and `isTarget` that
a redirection needs a word. -/
def expandWith (inner : Table -> List Located -> List Located) (aliases : Table)
    (atCommand isTarget : Bool) : List Located -> List Located
  | [] => []
  | t :: ts =>
      match t.token with
      | .word text =>
          if isTarget then t :: expandWith inner aliases atCommand false ts
          else if ! atCommand then t :: expandWith inner aliases false false ts
          else
            match aliases.lookup text with
            | some value =>
                let others := aliases.filter fun a => a.1 ≠ text
                let again := value.getLast? = some ' ' || value.getLast? = some '\t'
                inner others (tokensOf t.line value) ++
                  expandWith inner aliases again false ts
            | none =>
                let goesOn := leading.contains (String.ofList text) || isAssignment text
                t :: expandWith inner aliases goesOn false ts
      | .redirect _ _ => t :: expandWith inner aliases atCommand true ts
      | _ => t :: expandWith inner aliases true false ts

/-- Put texts in the place of words that stand for them.  The fuel bounds how often
texts name other texts. -/
def expand : Nat -> Table -> List Located -> List Located
  | 0, _, ts => ts
  | fuel + 1, aliases, ts => expandWith (expand fuel) aliases true false ts

def lineEnds (ts : List Located) : List Nat :=
  (ts.zipIdx.filterMap fun (t, i) =>
      if t.token matches .newline then some (i + 1) else none) ++ [ts.length]

/-- Take what belongs to a line, texts being put in the place of words that stand
for them. -/
def readLine (aliases : Table) (ts : List Located) :
    Command.Parsed Command :=
  let read (ts : List Located) : Command.Parsed Command :=
    Command.readLine (6 * ts.length + 6) none ts
  if aliases.isEmpty then read ts
  else
    let attempt (n : Nat) : Command.Parsed Command :=
      read (expand (aliases.length + 1) aliases (ts.take n) ++ ts.drop n)
    let whole := (lineEnds ts).find? fun n =>
      match attempt n with
      | .ok (_, rest) => ts.length - n ≤ rest.length
      | .error _ => false
    attempt (whole.getD ts.length)

end Alias
end Shell
end TraceAdapter
