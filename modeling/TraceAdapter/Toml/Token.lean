import TraceAdapter.Text.Numeral

/-!
# Tokens of TOML

A TOML text is read one character after the other into quoted texts, signs,
blanks, ends of lines and atoms, which are runs of letters, digits and the few
other characters of bare keys, numbers and dates.  Comments leave nothing.
-/

namespace TraceAdapter
namespace Toml

inductive Token where
  | atom (cs : List Char)
  | text (s : String) (multiline : Bool)
  | sign (c : Char)
  | blank (cs : List Char)
  | newline
  deriving DecidableEq, Repr

namespace Token

/-- What the last characters have begun.  Collected characters are in reverse;
`quote` is the quotation mark of a text. -/
inductive Mode where
  | plain
  | atom (cs : List Char)
  | blank (cs : List Char)
  | comment
  | opening (quote : Char) (count : Nat)
  | line (quote : Char) (cs : List Char)
  | top (quote : Char)
  | lines (quote : Char) (cs : List Char)
  | closing (quote : Char) (cs : List Char) (count : Nat)
  | escape (multiline : Bool) (cs : List Char)
  | code (multiline : Bool) (cs : List Char) (value left : Nat)
  | folding (ended : Bool) (cs : List Char)
  | broken
  deriving DecidableEq, Repr

structure Reading where
  mode : Mode := .plain
  tokens : List Token := []

def isAtomChar (c : Char) : Bool :=
  c.isAlphanum || c = '_' || c = '-' || c = '+' || c = '.' || c = ':'

def isSign (c : Char) : Bool :=
  c = '[' || c = ']' || c = '{' || c = '}' || c = ',' || c = '='

/-- Whether a character may stand in a comment or a quoted text as itself. -/
def isTextChar (c : Char) : Bool :=
  c = '\t' || (0x20 ≤ c.toNat && c.toNat ≠ 0x7F)

def escapes : List (Char × Char) :=
  [('b', Char.ofNat 8), ('t', '\t'), ('n', '\n'), ('f', Char.ofNat 12), ('r', '\r'),
    ('"', '"'), ('\\', '\\')]

namespace Reading

def add (r : Reading) (t : Token) : Reading :=
  { mode := .plain, tokens := t :: r.tokens }

def addText (r : Reading) (cs : List Char) (multiline : Bool) : Reading :=
  r.add (.text (String.ofList cs.reverse) multiline)

def plain (r : Reading) (c : Char) : Reading :=
  if c = '\n' then r.add .newline
  else if c = ' ' ∨ c = '\t' then { r with mode := .blank [c] }
  else if c = '#' then { r with mode := .comment }
  else if c = '"' ∨ c = '\'' then { r with mode := .opening c 1 }
  else if isSign c then r.add (.sign c)
  else if isAtomChar c then { r with mode := .atom [c] }
  else { r with mode := .broken }

def inLine (r : Reading) (quote : Char) (cs : List Char) (c : Char) : Reading :=
  if c = quote then r.addText cs false
  else if c = '\\' ∧ quote = '"' then { r with mode := .escape false cs }
  else if isTextChar c then { r with mode := .line quote (c :: cs) }
  else { r with mode := .broken }

def inLines (r : Reading) (quote : Char) (cs : List Char) (c : Char) : Reading :=
  if c = quote then { r with mode := .closing quote cs 1 }
  else if c = '\\' ∧ quote = '"' then { r with mode := .escape true cs }
  else if isTextChar c ∨ c = '\n' then { r with mode := .lines quote (c :: cs) }
  else { r with mode := .broken }

def inside (multiline : Bool) (cs : List Char) : Mode :=
  if multiline then .lines '"' cs else .line '"' cs

def escaped (r : Reading) (multiline : Bool) (cs : List Char) (c : Char) : Reading :=
  match escapes.find? fun e => e.1 == c with
  | some e => { r with mode := inside multiline (e.2 :: cs) }
  | none =>
      if c = 'u' then { r with mode := .code multiline cs 0 4 }
      else if c = 'U' then { r with mode := .code multiline cs 0 8 }
      else if multiline ∧ (c = ' ' ∨ c = '\t') then { r with mode := .folding false cs }
      else if multiline ∧ c = '\n' then { r with mode := .folding true cs }
      else { r with mode := .broken }

def code (r : Reading) (multiline : Bool) (cs : List Char) (value left : Nat)
    (c : Char) : Reading :=
  match Numeral.digit? 16 c with
  | none => { r with mode := .broken }
  | some d =>
      let value := value * 16 + d
      if 1 < left then { r with mode := .code multiline cs value (left - 1) }
      else if value.isValidChar then
        { r with mode := inside multiline (Char.ofNat value :: cs) }
      else { r with mode := .broken }

/-- Take a character after quotation marks in a text over several lines.
Three of them close it, with up to two that still belong to the text. -/
def closing (r : Reading) (quote : Char) (cs : List Char) (count : Nat) (c : Char) :
    Reading :=
  let ended (extra : Nat) : Reading := r.addText (List.replicate extra quote ++ cs) true
  if c = quote then
    if count = 4 then ended 2 else { r with mode := .closing quote cs (count + 1) }
  else if 3 ≤ count then (ended (count - 3)).plain c
  else r.inLines quote (List.replicate count quote ++ cs) c

def step (r : Reading) (c : Char) : Reading :=
  match r.mode with
  | .plain => r.plain c
  | .atom cs =>
      if isAtomChar c then { r with mode := .atom (c :: cs) }
      else (r.add (.atom cs.reverse)).plain c
  | .blank cs =>
      if c = ' ' ∨ c = '\t' then { r with mode := .blank (c :: cs) }
      else (r.add (.blank cs.reverse)).plain c
  | .comment =>
      if c = '\n' then r.add .newline
      else if isTextChar c then r
      else { r with mode := .broken }
  | .opening quote 1 =>
      if c = quote then { r with mode := .opening quote 2 } else r.inLine quote [] c
  | .opening quote _ =>
      if c = quote then { r with mode := .top quote } else (r.addText [] false).plain c
  | .line quote cs => r.inLine quote cs c
  | .top quote =>
      if c = '\n' then { r with mode := .lines quote [] } else r.inLines quote [] c
  | .lines quote cs => r.inLines quote cs c
  | .closing quote cs count => r.closing quote cs count c
  | .escape multiline cs => r.escaped multiline cs c
  | .code multiline cs value left => r.code multiline cs value left c
  | .folding ended cs =>
      if c = ' ' ∨ c = '\t' then r
      else if c = '\n' then { r with mode := .folding true cs }
      else if ended then r.inLines '"' cs c
      else { r with mode := .broken }
  | .broken => r

/-- The tokens at the end of a text, none when it is broken or breaks off. -/
def finish (r : Reading) : Option (List Token) :=
  let ended (r : Reading) : Option (List Token) := some r.tokens.reverse
  match r.mode with
  | .plain => ended r
  | .comment => ended r
  | .atom cs => ended (r.add (.atom cs.reverse))
  | .blank cs => ended (r.add (.blank cs.reverse))
  | .opening _ 2 => ended (r.addText [] false)
  | .closing quote cs count =>
      if 3 ≤ count then
        ended (r.addText (List.replicate (count - 3) quote ++ cs) true)
      else none
  | _ => none

end Reading

/-- A line may end in a carriage return and a line feed, which count as one. -/
def joinLineEnds : List Char -> List Char
  | [] => []
  | '\r' :: '\n' :: rest => '\n' :: joinLineEnds rest
  | c :: rest => c :: joinLineEnds rest

def dropMark : List Char -> List Char
  | [] => []
  | c :: rest => if c.toNat = 0xFEFF then rest else c :: rest

def scan? (text : String) : Option (List Token) :=
  ((joinLineEnds (dropMark text.toList)).foldl Reading.step {}).finish

end Token

end Toml
end TraceAdapter
