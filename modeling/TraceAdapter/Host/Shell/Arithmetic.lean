import TraceAdapter.Text.Numeral

/-!
# Arithmetic of shell scripts

Integers of 64 bits, signed, with the usual operators in their usual order.
-/

namespace TraceAdapter
namespace Shell
namespace Arithmetic

inductive Operator where
  | times | divided | modulo | plus | minus | left | right
  | less | atMost | more | atLeast | same | different
  | bitAnd | bitXor | bitOr
  deriving DecidableEq, Repr

inductive Expression where
  | number (i : Int)
  | parameter (name : List Char)
  | negative (e : Expression)
  | complement (e : Expression)
  | isZero (e : Expression)
  | apply (o : Operator) (a b : Expression)
  | both (a b : Expression)
  | either (a b : Expression)
  | choice (test yes no : Expression)
  | assign (name : List Char) (o? : Option Operator) (e : Expression)
  deriving Repr

def wrap (i : Int) : Int := i.bmod Numeral.bound64

/-!
## Reading
-/

inductive Part where
  | number (i : Int)
  | name (cs : List Char)
  | sign (text : String)
  | bad
  deriving DecidableEq, Repr

def signs : List String :=
  ["<<=", ">>=", "<<", ">>", "<=", ">=", "==", "!=", "&&", "||", "+=", "-=", "*=",
    "/=", "%=", "&=", "^=", "|=", "+", "-", "*", "/", "%", "<", ">", "&", "^", "|",
    "~", "!", "=", "?", ":", "(", ")"]

/-- The number that a word of digits stands for: in base sixteen after `0x`, in
base eight after a zero, in base ten otherwise. -/
def number? (cs : List Char) : Option Int :=
  let limited (n : Nat) : Int := min (n : Int) (Numeral.signedBound64 - 1)
  match cs with
  | '0' :: 'x' :: ds => (Numeral.ofDigits? 16 ds).map limited
  | '0' :: 'X' :: ds => (Numeral.ofDigits? 16 ds).map limited
  | '0' :: ds =>
      if ds.isEmpty then some 0 else (Numeral.ofDigits? 8 ds).map limited
  | ds => (Numeral.ofDigits? 10 ds).map limited

/-- The parts of a text, up to a bad one.  The fuel bounds the number of
characters. -/
def parts : Nat -> List Char -> List Part
  | 0, _ => []
  | _, [] => []
  | fuel + 1, c :: cs =>
      if c = ' ' ∨ c = '\t' ∨ c = '\n' then parts fuel cs
      else if c.isDigit then
        let (word, rest) := (c :: cs).span fun c => c.isAlphanum
        match number? word with
        | some i => .number i :: parts fuel rest
        | none => [.number 0, .bad]
      else if c.isAlpha ∨ c = '_' then
        let (word, rest) := (c :: cs).span fun c => c.isAlphanum || c = '_'
        .name word :: parts fuel rest
      else
        match signs.find? fun s => s.toList.isPrefixOf (c :: cs) with
        | some s => .sign s :: parts fuel ((c :: cs).drop s.length)
        | none => [.bad]

/-- The operators between two values, by how closely they bind, the closest
first. -/
def levels : List (List (String × Operator)) :=
  [[("*", .times), ("/", .divided), ("%", .modulo)], [("+", .plus), ("-", .minus)],
    [("<<", .left), (">>", .right)],
    [("<", .less), ("<=", .atMost), (">", .more), (">=", .atLeast)],
    [("==", .same), ("!=", .different)], [("&", .bitAnd)], [("^", .bitXor)],
    [("|", .bitOr)]]

def assigning? (s : String) : Option (Option Operator) :=
  match s with
  | "=" => some none
  | "*=" => some (some .times)
  | "/=" => some (some .divided)
  | "%=" => some (some .modulo)
  | "+=" => some (some .plus)
  | "-=" => some (some .minus)
  | "<<=" => some (some .left)
  | ">>=" => some (some .right)
  | "&=" => some (some .bitAnd)
  | "^=" => some (some .bitXor)
  | "|=" => some (some .bitOr)
  | _ => none

/-- What reading a part of an expression comes to: it and the rest, or why
there is none. -/
abbrev Parsed := Except String (Expression × List Part)

mutual

def readAssignment (fuel : Nat) (ps : List Part) : Parsed :=
  match fuel with
  | 0 => .error "expecting primary"
  | fuel + 1 =>
      match ps with
      | .name x :: .sign s :: rest =>
          match assigning? s with
          | some o? =>
              (readAssignment fuel rest).map fun (e, rest) => (.assign x o? e, rest)
          | none => readChoice fuel ps
      | _ => readChoice fuel ps

def readChoice (fuel : Nat) (ps : List Part) : Parsed :=
  match fuel with
  | 0 => .error "expecting primary"
  | fuel + 1 =>
      match readEither fuel ps with
      | .error e => .error e
      | .ok (test, .sign "?" :: rest) =>
          match readAssignment fuel rest with
          | .error e => .error e
          | .ok (yes, .sign ":" :: rest) =>
              (readChoice fuel rest).map fun (no, rest) => (.choice test yes no, rest)
          | .ok _ => .error "expecting ':'"
      | .ok other => .ok other

def readEither (fuel : Nat) (ps : List Part) : Parsed :=
  match fuel with
  | 0 => .error "expecting primary"
  | fuel + 1 =>
      match readBoth fuel ps with
      | .error e => .error e
      | .ok (a, .sign "||" :: rest) =>
          (readEither fuel rest).map fun (b, rest) => (.either a b, rest)
      | .ok other => .ok other

def readBoth (fuel : Nat) (ps : List Part) : Parsed :=
  match fuel with
  | 0 => .error "expecting primary"
  | fuel + 1 =>
      match readLevels fuel levels.reverse ps with
      | .error e => .error e
      | .ok (a, .sign "&&" :: rest) =>
          (readBoth fuel rest).map fun (b, rest) => (.both a b, rest)
      | .ok other => .ok other

def readLevels (fuel : Nat) (ls : List (List (String × Operator)))
    (ps : List Part) : Parsed :=
  match fuel, ls with
  | 0, _ => .error "expecting primary"
  | fuel + 1, [] => readPrimary fuel ps
  | fuel + 1, l :: ls =>
      match readLevels fuel ls ps with
      | .error e => .error e
      | .ok (a, rest) => readFurther fuel l ls a rest

def readFurther (fuel : Nat) (l : List (String × Operator))
    (ls : List (List (String × Operator))) (a : Expression) (ps : List Part) : Parsed :=
  match fuel, ps with
  | fuel + 1, .sign s :: rest =>
      match l.lookup s with
      | none => .ok (a, ps)
      | some o =>
          match readLevels fuel ls rest with
          | .error e => .error e
          | .ok (b, rest) => readFurther fuel l ls (.apply o a b) rest
  | _, _ => .ok (a, ps)

def readPrimary (fuel : Nat) (ps : List Part) : Parsed :=
  match fuel, ps with
  | _ + 1, .number i :: rest => .ok (.number i, rest)
  | _ + 1, .name x :: rest => .ok (.parameter x, rest)
  | fuel + 1, .sign "(" :: rest =>
      match readAssignment fuel rest with
      | .error e => .error e
      | .ok (e, .sign ")" :: rest) => .ok (e, rest)
      | .ok _ => .error "expecting ')'"
  | fuel + 1, .sign "+" :: rest => readPrimary fuel rest
  | fuel + 1, .sign "-" :: rest =>
      (readPrimary fuel rest).map fun (e, rest) => (.negative e, rest)
  | fuel + 1, .sign "~" :: rest =>
      (readPrimary fuel rest).map fun (e, rest) => (.complement e, rest)
  | fuel + 1, .sign "!" :: rest =>
      (readPrimary fuel rest).map fun (e, rest) => (.isZero e, rest)
  | _, _ => .error "expecting primary"

end

def faultText (cs : List Char) (text : String) : String :=
  "arithmetic expression: " ++ text ++ ": \"" ++ String.ofList cs ++ "\""

def ofText (cs : List Char) : Except String Expression :=
  let ps := parts (cs.length + 1) cs
  match readAssignment (20 * ps.length + 20) ps with
  | .ok (e, []) => .ok e
  | .ok _ => .error (faultText cs "expecting EOF")
  | .error text => .error (faultText cs text)

/-!
## Evaluation
-/

def ofBool (b : Bool) : Int := if b then 1 else 0

def bits (i : Int) : BitVec 64 := BitVec.ofInt 64 i

/-- The value of an operation, none when it divides by zero. -/
def Operator.value? (o : Operator) (a b : Int) : Option Int :=
  match o with
  | times => some (wrap (a * b))
  | divided => if b = 0 then none else some (wrap (a.tdiv b))
  | modulo => if b = 0 then none else some (wrap (a.tmod b))
  | plus => some (wrap (a + b))
  | minus => some (wrap (a - b))
  | left => some (bits a <<< ((bits b).toNat % 64)).toInt
  | right => some ((bits a).sshiftRight ((bits b).toNat % 64)).toInt
  | less => some (ofBool (a < b))
  | atMost => some (ofBool (a ≤ b))
  | more => some (ofBool (b < a))
  | atLeast => some (ofBool (b ≤ a))
  | same => some (ofBool (a = b))
  | different => some (ofBool (a ≠ b))
  | bitAnd => some (bits a &&& bits b).toInt
  | bitXor => some (bits a ^^^ bits b).toInt
  | bitOr => some (bits a ||| bits b).toInt

abbrev Changes := List (List Char × Int)

def Expression.eval (value : List Char -> Except String Int) :
    Expression -> Changes -> Except String (Int × Changes)
  | number i, s => .ok (i, s)
  | parameter x, s =>
      match s.lookup x with
      | some i => .ok (i, s)
      | none => (value x).map fun i => (i, s)
  | negative e, s => (e.eval value s).map fun (i, s) => (wrap (-i), s)
  | complement e, s => (e.eval value s).map fun (i, s) => (wrap (-i - 1), s)
  | isZero e, s => (e.eval value s).map fun (i, s) => (ofBool (i = 0), s)
  | apply o a b, s =>
      match a.eval value s with
      | .error e => .error e
      | .ok (i, s) =>
          match b.eval value s with
          | .error e => .error e
          | .ok (j, s) =>
              match o.value? i j with
              | some k => .ok (k, s)
              | none => .error "division by zero"
  | both a b, s =>
      match a.eval value s with
      | .error e => .error e
      | .ok (i, s) =>
          if i = 0 then .ok (0, s)
          else (b.eval value s).map fun (j, s) => (ofBool (j ≠ 0), s)
  | either a b, s =>
      match a.eval value s with
      | .error e => .error e
      | .ok (i, s) =>
          if i ≠ 0 then .ok (1, s)
          else (b.eval value s).map fun (j, s) => (ofBool (j ≠ 0), s)
  | choice test yes no, s =>
      match test.eval value s with
      | .error e => .error e
      | .ok (i, s) => if i ≠ 0 then yes.eval value s else no.eval value s
  | assign x o? e, s =>
      match e.eval value s with
      | .error e => .error e
      | .ok (j, s) =>
          match o? with
          | none => .ok (j, (x, j) :: s)
          | some o =>
              let current : Except String Int :=
                match s.lookup x with
                | some i => .ok i
                | none => value x
              match current with
              | .error e => .error e
              | .ok i =>
                  match o.value? i j with
                  | some k => .ok (k, (x, k) :: s)
                  | none => .error "division by zero"

def evaluate (value : List Char -> Except String Int) (cs : List Char) :
    Except String (Int × Changes) :=
  match ofText cs with
  | .error e => .error e
  | .ok e =>
      (e.eval value []).mapError fun text =>
        if text = "division by zero" then faultText cs text else text

end Arithmetic
end Shell
end TraceAdapter
