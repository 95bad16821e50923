import TraceAdapter.Host.Shell.State

/-!
# Conditions of shell scripts

The words after `test` are a condition: texts and numbers are compared, files
are looked for, and conditions are joined.
-/

namespace TraceAdapter
namespace Shell
namespace Condition

def unaries : List String :=
  ["-r", "-w", "-x", "-e", "-f", "-d", "-c", "-b", "-p", "-u", "-g", "-k", "-s", "-t",
    "-z", "-n", "-h", "-L", "-O", "-G", "-S"]

def binaries : List String :=
  ["=", "!=", "<", ">", "-eq", "-ne", "-gt", "-ge", "-lt", "-le", "-nt", "-ot", "-ef"]

/-- Whether a word is an operator on the next one: not when it stands alone or
in front of an operator between two words. -/
def isUnary (w : String) (rest : List String) : Bool :=
  unaries.contains w &&
    match rest with
    | [] => false
    | [_] => true
    | next :: _ => ! binaries.contains next

abbrev Outcome := Except String Bool

abbrev Parsed := Except String (Bool × List String)

def number (w : String) : Except String Int :=
  match Numeral.integer64? (String.ofList ((w.toList.dropWhile (· = ' ')).reverse.dropWhile
      (· = ' ')).reverse) with
  | some i => .ok i
  | none => .error ("Illegal number: " ++ w)

/-- The outcome of an operator on a word.  What is there can be read and
written; it can be run when its mode says so. -/
def unary (files : Files) (op w : String) : Bool :=
  let node? : Option Node := (files.lookup w).toOption
  let has (bits : Nat) : Bool := node?.any fun node => node.mode &&& bits ≠ 0
  match op with
  | "-z" => w.isEmpty
  | "-n" => ! w.isEmpty
  | "-e" => node?.isSome
  | "-r" => node?.isSome
  | "-w" => node?.isSome
  | "-O" => node?.isSome
  | "-G" => node?.isSome
  | "-d" => node?.any Node.isDirectory
  | "-x" => node?.any fun node => node.isDirectory || node.isRunnable
  | "-f" => node?.any Node.isFile
  | "-c" => node?.any fun node => (node.content matches .device _)
  | "-u" => has 0o4000
  | "-g" => has 0o2000
  | "-k" => has 0o1000
  | "-h" => (files.inspect w).toOption.any Node.isLink
  | "-L" => (files.inspect w).toOption.any Node.isLink
  | "-s" => node?.any fun node => node.isDirectory || ! node.bytes.isEmpty
  | _ => false

def isSameNode (files : Files) (a b : String) : Bool :=
  match files.find a, files.find b with
  | .ok p, .ok q => p = q || ((files.number? p).isSome && files.number? p = files.number? q)
  | _, _ => false

def isNewer (files : Files) (a b : String) : Bool :=
  match files.lookup a, files.lookup b with
  | .ok m, .ok n => n.modified < m.modified
  | _, _ => false

def binary (files : Files) (a op b : String) : Outcome :=
  let compare (f : Int -> Int -> Bool) : Outcome :=
    match number a, number b with
    | .ok i, .ok j => .ok (f i j)
    | .error e, _ => .error e
    | _, .error e => .error e
  match op with
  | "=" => .ok (a = b)
  | "!=" => .ok (a ≠ b)
  | "<" => .ok (a < b)
  | ">" => .ok (b < a)
  | "-eq" => compare fun i j => i = j
  | "-ne" => compare fun i j => i ≠ j
  | "-gt" => compare fun i j => j < i
  | "-ge" => compare fun i j => j ≤ i
  | "-lt" => compare fun i j => i < j
  | "-le" => compare fun i j => i ≤ j
  | "-ef" => .ok (isSameNode files a b)
  | "-nt" => .ok (isNewer files a b)
  | "-ot" => .ok (isNewer files b a)
  | _ => .ok false

mutual

def readEither (files : Files) (fuel : Nat) (ws : List String) : Parsed :=
  match fuel with
  | 0 => .ok (false, ws)
  | fuel + 1 =>
      match readBoth files fuel ws with
      | .error e => .error e
      | .ok (a, "-o" :: rest) =>
          (readEither files fuel rest).map fun (b, rest) => (a || b, rest)
      | .ok other => .ok other

def readBoth (files : Files) (fuel : Nat) (ws : List String) : Parsed :=
  match fuel with
  | 0 => .ok (false, ws)
  | fuel + 1 =>
      match readNegated files fuel ws with
      | .error e => .error e
      | .ok (a, "-a" :: rest) =>
          (readBoth files fuel rest).map fun (b, rest) => (a && b, rest)
      | .ok other => .ok other

def readNegated (files : Files) (fuel : Nat) (ws : List String) : Parsed :=
  match fuel, ws with
  | fuel + 1, "!" :: w :: rest =>
      (readNegated files fuel (w :: rest)).map fun (a, rest) => (! a, rest)
  | fuel + 1, ws => readPrimary files fuel ws
  | 0, ws => .ok (false, ws)

def readPrimary (files : Files) (fuel : Nat) (ws : List String) : Parsed :=
  match fuel, ws with
  | _, [] => .ok (false, [])
  | 0, ws => .ok (false, ws)
  | fuel + 1, w :: rest =>
      let plain : Parsed :=
        match rest with
        | op :: b :: left =>
            if binaries.contains op then
              (binary files w op b).map fun outcome => (outcome, left)
            else .ok (! w.isEmpty, rest)
        | [op] =>
            if binaries.contains op then .error (op ++ ": argument expected")
            else .ok (! w.isEmpty, rest)
        | [] => .ok (! w.isEmpty, rest)
      if w = "(" ∧ ! rest.isEmpty then
        match rest with
        | ")" :: left => .ok (false, left)
        | _ =>
            match readEither files fuel rest with
            | .error e => .error e
            | .ok (a, ")" :: left) => .ok (a, left)
            | .ok _ => .error "closing paren expected"
      else if isUnary w rest then
        match rest with
        | operand :: left => .ok (unary files w operand, left)
        | [] => .error (w ++ ": argument expected")
      else plain

end

def readWhole (files : Files) (ws : List String) : Outcome :=
  match readEither files (4 * ws.length + 4) ws with
  | .error e => .error e
  | .ok (a, []) => .ok a
  | .ok (_, left) =>
      let last := (ws[ws.length - left.length - 1]?).getD ""
      .error (last ++ ": unexpected operator")

/-- Whether a condition holds.  Of few words the meaning hangs on their
number. -/
def holds (files : Files) : List String -> Outcome
  | [] => .ok false
  | [a, op, b] =>
      if binaries.contains op then binary files a op b
      else if a = "(" ∧ b = ")" then readWhole files [op]
      else if a = "!" then (readWhole files [op, b]).map (! ·)
      else readWhole files [a, op, b]
  | ["!", a, op, b] =>
      if binaries.contains op then (binary files a op b).map (! ·)
      else (readWhole files [a, op, b]).map (! ·)
  | ["(", a, b, ")"] => readWhole files [a, b]
  | ws => readWhole files ws

end Condition
end Shell
end TraceAdapter
