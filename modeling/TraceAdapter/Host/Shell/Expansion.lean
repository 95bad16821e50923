import TraceAdapter.Host.Shell.Arithmetic
import TraceAdapter.Host.Shell.Pattern
import TraceAdapter.Host.Shell.State

/-!
# Expansion of words

A word becomes any number of fields: values are put in, those that are not
quoted are divided at separators, and a field that is a pattern becomes the
names of the files that fit it.
-/

namespace TraceAdapter
namespace Shell

inductive Mark where
  | char (c : Char) (active : Bool)
  | soft (c : Char)
  | quotation
  | gap
  deriving DecidableEq, Repr

namespace Mark

def ofValue (quoted : Bool) (value : List Char) : List Mark :=
  value.map fun c => if quoted then .char c false else .soft c

def soften : Mark -> Mark
  | .char c true => .soft c
  | m => m

def marked? : Mark -> Option Marked
  | .char c active => some (c, active)
  | .soft c => some (c, true)
  | .quotation => none
  | .gap => none

def joined (separators : List Char) (marks : List Mark) : List Mark :=
  marks.flatMap fun
    | .gap => separators.head?.toList.map (.char · false)
    | m => [m]

def text (separators : List Char) (marks : List Mark) : List Char :=
  (joined separators marks).filterMap fun m => m.marked?.map Prod.fst

def pattern (separators : List Char) (marks : List Mark) : List Wildcard :=
  Wildcard.ofMarked ((joined separators marks).filterMap marked?)

/-!
## Fields
-/

inductive Ending where
  | none
  | blank
  | separator
  deriving DecidableEq, Repr

structure Fields where
  finished : List (List Marked) := []
  current? : Option (List Marked) := none
  last : Ending := .none

namespace Fields

def split (f : Fields) (last : Ending) : Fields :=
  match f.current? with
  | none => { f with last }
  | some cs => { finished := cs.reverse :: f.finished, last }

def push (f : Fields) (m : Marked) : Fields :=
  { f with current? := some (m :: f.current?.getD []) }

/-- Divide at a separator.  Blanks around another separator belong to it. -/
def divide (f : Fields) (c : Char) : Fields :=
  if c = ' ' ∨ c = '\t' ∨ c = '\n' then
    match f.current? with
    | none => f
    | some _ => f.split .blank
  else
    match f.current?, f.last with
    | none, .blank => { f with last := .separator }
    | none, _ => { finished := [] :: f.finished, last := .separator }
    | some _, _ => f.split .separator

def take (separators : List Char) (f : Fields) : Mark -> Fields
  | .char c active => f.push (c, active)
  | .soft c => if separators.contains c then f.divide c else f.push (c, true)
  | .quotation => { f with current? := some (f.current?.getD []) }
  | .gap => f.split .none

end Fields

def fields (separators : List Char) (marks : List Mark) : List (List Marked) :=
  ((marks.foldl (Fields.take separators) {}).split .none).finished.reverse

end Mark

/-!
## Names of files
-/

def splitMarked : List Marked -> List (List Marked)
  | [] => [[]]
  | m :: ms =>
      match splitMarked ms with
      | piece :: rest => if m.1 = '/' then [] :: piece :: rest else (m :: piece) :: rest
      | [] => [[m]]

/-- The names in a directory that fit a piece of a pattern.  Names that begin with
a dot fit only a piece that does. -/
def fitting (files : Files) (directory : String) (piece : List Marked) :
    List (List Char) :=
  match files.find directory with
  | .error _ => []
  | .ok place =>
      if ! files.isDirectoryAt place then []
      else
        let known := (files.names place).eraseDups.map fun s => Bytes.toChars (Utf8.encode s)
        let hidden := piece.head?.any fun m => m.1 = '.'
        let names :=
          if hidden then ['.'] :: ['.', '.'] :: known
          else known.filter fun n => n.head? ≠ some '.'
        names.filter fun n => Wildcard.fitsAll (Wildcard.ofMarked piece) n

/-- The paths that fit the pieces of a pattern, after a text that leads to a
directory. -/
def matching (files : Files) : List (List Marked) -> List Char -> List (List Char)
  | [], _ => []
  | piece :: pieces, before =>
      if Wildcard.isPattern piece then
        let directory := if before.isEmpty then "." else State.path before
        (fitting files directory piece).flatMap fun name =>
          match pieces with
          | [] => [before ++ name]
          | _ => matching files pieces (before ++ name ++ ['/'])
      else
        let text := before ++ piece.map Prod.fst
        match pieces with
        | [] => if (files.inspect (State.path text)).isOk then [text] else []
        | _ => matching files pieces (text ++ ['/'])

def State.spread (s : State) (field : List Marked) : List (List Char) :=
  let plain := field.map Prod.fst
  if ! Wildcard.isPattern field || s.has 'f' then [plain]
  else
    match matching s.files (splitMarked field) [] with
    | [] => [plain]
    | names => names.mergeSort Bytes.notAfter

/-!
## Parameters
-/

def processNumber : List Char := ['2']

/-- The value of a parameter, none when it has none. -/
def State.value? (s : State) (name : List Char) : Option (List Char) :=
  match name with
  | ['#'] => some (Numeral.decimal s.arguments.length).toList
  | ['?'] => some (Numeral.decimal s.status).toList
  | ['$'] => some processNumber
  | ['!'] => s.lookup? ['!']
  | ['-'] => some s.options
  | ['0'] => some s.name
  | ['@'] =>
      if s.arguments.isEmpty then none else some (List.intercalate [' '] s.arguments)
  | ['*'] =>
      if s.arguments.isEmpty then none
      else some (List.intercalate s.separators.head?.toList s.arguments)
  | _ =>
      match Numeral.ofDigits? 10 name with
      | some n => s.arguments[n - 1]?
      | none =>
          if name = "LINENO".toList then some (Numeral.decimal s.line).toList
          else s.lookup? name

def State.number (s : State) (x : List Char) : Except String Int :=
  match s.value? x with
  | none => if s.has 'u' then .error (State.path x ++ ": parameter not set") else .ok 0
  | some cs =>
      let digits := (cs.dropWhile (· = ' ')).reverse.dropWhile (· = ' ') |>.reverse
      let (negative, rest) :=
        match digits with
        | '-' :: rest => (true, rest)
        | '+' :: rest => (false, rest)
        | _ => (false, digits)
      if digits.isEmpty then .ok 0
      else
        match Arithmetic.number? rest with
        | some i => .ok (if negative then -i else i)
        | none => .error ("Illegal number: " ++ State.path cs)

def failWith (text : List Char) : Action Unit := modify fun s => s.fail text

/-!
## Directories of users
-/

def State.home? (s : State) (user : List Char) : Option (List Char) :=
  if user.isEmpty then s.lookup? "HOME".toList
  else
    match s.files.read "/etc/passwd" with
    | .error _ => none
    | .ok bytes =>
        ((Bytes.toChars bytes).splitOn '\n').findSome? fun line =>
          match line.splitOn ':' with
          | name :: _ :: _ :: _ :: _ :: home :: _ => if name = user then some home else none
          | _ => none

/-- A word with the directory of a user in the place of a tilde and a name in front,
which a slash ends, or a colon if that is asked for. -/
def State.withHome (s : State) (colons : Bool) (w : Word) : Word :=
  match w with
  | .char '~' false :: rest =>
      let name := rest.takeWhile fun
        | .char '/' false => false
        | .char ':' false => ! colons
        | _ => true
      match (Word.literal? name).bind s.home? with
      | some home => home.map (.char · true) ++ rest.drop name.length
      | none => w
  | _ => w

/-- The same behind each colon too.  The fuel bounds the number of colons. -/
def State.withHomes (s : State) : Nat -> Word -> Word
  | 0, w => w
  | fuel + 1, w =>
      let w := s.withHome true w
      let front := w.takeWhile fun
        | .char ':' false => false
        | _ => true
      match w.drop front.length with
      | [] => front
      | colon :: rest => front ++ colon :: s.withHomes fuel rest

/-!
## Values
-/

abbrev Substitution := List Char -> Option Nat -> Action (List Char)

def arithmeticValue (expression : List Char) : Action (List Char) := do
  let s ← get
  match Arithmetic.evaluate s.number expression with
  | .error text =>
      failWith text.toList
      return []
  | .ok (i, changes) =>
      modify fun s => changes.reverse.foldl
        (fun s b => s.bind b.1 (Numeral.signedDecimal b.2).toList) s
      return (Numeral.signedDecimal i).toList

def argumentMarks (quoted : Bool) (arguments : List (List Char)) : List Mark :=
  List.intercalate [.gap] (arguments.map fun a =>
    (if quoted then [.quotation] else []) ++ Mark.ofValue quoted a)

/-!
## Words
-/

/-- Expand a piece of a word.  The fuel bounds how deeply words are nested. -/
def expandPiece (run : Substitution) : Nat -> Piece -> Action (List Mark)
  | 0, _ => return []
  | fuel + 1, piece => do
      let nested (w : Word) : Action (List Mark) := do
        let w := (← get).withHome false w
        return (← w.mapM (expandPiece run fuel)).flatten
      let textOf (w : Word) : Action (List Char) := do
        let marks ← nested w
        return Mark.text (← get).separators marks
      let patternOf (w : Word) : Action (List Wildcard) := do
        let marks ← nested w
        return Mark.pattern (← get).separators marks
      if ! (← get).goesOn then return []
      match piece with
      | .char c quoted => return [.char c (! quoted)]
      | .quotation => return [.quotation]
      | .command script line? quoted =>
          return Mark.ofValue quoted (← run script line?)
      | .arithmetic expression quoted =>
          let text ← textOf expression
          if ! (← get).goesOn then return []
          return Mark.ofValue quoted (← arithmeticValue text)
      | .parameter name edit word quoted =>
          let s ← get
          let value? := s.value? name
          let other : Action (List Mark) := do
            let marks ← nested word
            return if quoted then marks else marks.map Mark.soften
          let present (empty : Bool) : Bool :=
            value?.any fun value => ! empty || ! value.isEmpty
          let all : List Mark :=
            if name = ['@'] ∨ (name = ['*'] ∧ ! quoted) then
              argumentMarks quoted s.arguments
            else Mark.ofValue quoted (value?.getD [])
          let isUnset : Bool := s.has 'u' && value?.isNone && name ≠ ['@'] && name ≠ ['*']
          match edit with
          | .bad =>
              failWith "Bad substitution".toList
              return []
          | .default empty => if present empty then return all else other
          | .replace empty => if present empty then other else return []
          | .assign empty =>
              if present empty then return all
              let text ← textOf word
              modify fun s => s.bind name text
              return Mark.ofValue quoted text
          | .require empty =>
              if present empty then return all
              let text ← textOf word
              let reason :=
                if ! word.isEmpty then text
                else if empty then "parameter not set or null".toList
                else "parameter not set".toList
              failWith (name ++ ": ".toList ++ reason)
              return []
          | .whole =>
              if isUnset then
                failWith (name ++ ": parameter not set".toList)
                return []
              return all
          | .length =>
              if isUnset then
                failWith (name ++ ": parameter not set".toList)
                return []
              return Mark.ofValue quoted
                (Numeral.decimal (value?.getD []).length).toList
          | .cutFront longest =>
              let pattern ← patternOf word
              return Mark.ofValue quoted (Wildcard.cutFront longest pattern (value?.getD []))
          | .cutBack longest =>
              let pattern ← patternOf word
              return Mark.ofValue quoted (Wildcard.cutBack longest pattern (value?.getD []))

def expandMarks (run : Substitution) (fuel : Nat) (w : Word) : Action (List Mark) := do
  let w := (← get).withHome false w
  return (← w.mapM (expandPiece run fuel)).flatten

def expandFields (run : Substitution) (fuel : Nat) (ws : List Word) :
    Action (List (List Char)) := do
  let fields ← ws.mapM fun w => do
    let marks ← expandMarks run fuel w
    let s ← get
    return (Mark.fields s.separators marks).flatMap s.spread
  return fields.flatten

def expandText (run : Substitution) (fuel : Nat) (w : Word) : Action (List Char) := do
  let marks ← expandMarks run fuel w
  return Mark.text (← get).separators marks

def expandValue (run : Substitution) (fuel : Nat) (w : Word) : Action (List Char) := do
  expandText run fuel ((← get).withHomes (w.length + 1) w)

def expandPattern (run : Substitution) (fuel : Nat) (w : Word) :
    Action (List Wildcard) := do
  let marks ← expandMarks run fuel w
  return Mark.pattern (← get).separators marks

end Shell
end TraceAdapter
