import TraceAdapter.Text.Numeral

/-!
# Words of shell scripts

A word is a list of pieces: characters, and places where a value is put in.
Characters stand for bytes here, so a script may hold any bytes.
-/

namespace TraceAdapter
namespace Shell

/-- What becomes of the value of a parameter.  Where a flag stands, it says
whether an empty value counts as none. -/
inductive Edit where
  | whole
  | length
  | default (empty : Bool)
  | assign (empty : Bool)
  | require (empty : Bool)
  | replace (empty : Bool)
  | cutFront (longest : Bool)
  | cutBack (longest : Bool)
  | bad
  deriving DecidableEq, Repr

inductive Piece where
  | char (c : Char) (quoted : Bool)
  /-- A quotation, which makes a word even if nothing stands in it. -/
  | quotation
  | parameter (name : List Char) (edit : Edit) (word : List Piece) (quoted : Bool)
  /-- What a script writes, and the line in which it starts; none when its lines
  are counted from one, as between back quotes. -/
  | command (script : List Char) (line? : Option Nat) (quoted : Bool)
  | arithmetic (expression : List Piece) (quoted : Bool)
  deriving Repr

abbrev Word := List Piece

def backquote : Char := Char.ofNat 96

def isNameChar (c : Char) : Bool := c.isAlphanum || c = '_'

/-!
## What is open
-/

structure Inner where
  word : List Char := []
  first : Bool := true
  /-- How many `case` commands are open; their arms have parentheses of their
  own. -/
  cases : Nat := 0
  /-- Whether the sign before may be the first half of one that asks for a
  document. -/
  asking : Bool := false
  /-- The documents that begin with the next line: the lines that end them, and
  whether tabs in front of their lines are dropped. -/
  documents : List (List Char × Bool) := []
  deriving DecidableEq, Repr

def endsWord (c : Char) : Bool :=
  " \t\n;&|<>()".toList.contains c

def leaders : List String :=
  ["!", "do", "elif", "else", "if", "in", "then", "until", "while", "\x7b"]

def Inner.endWord (p : Inner) (c : Char) : Inner :=
  let word := String.ofList p.word.reverse
  { p with
    word := []
    asking := c = '<' && ! p.asking
    first :=
      if "\n;&|()".toList.contains c then true
      else if p.word.isEmpty then p.first
      else leaders.contains word
    cases :=
      if ! p.first then p.cases
      else if word = "case" then p.cases + 1
      else if word = "esac" then p.cases - 1
      else p.cases }

inductive Opening where
  | escape
  | dollar
  | single
  | double
  | back
  | parameter (quoted : Bool)
  | brace (quoted : Bool)
  | command
  | paren (inner : Inner)
  /-- The delimiter of a document, in reverse, and the quote being read.  Tabs in
  front of the lines are dropped, perhaps. -/
  | delimiter (tabs : Bool) (text : List Char) (quote? : Option Char)
  | documents (wanted : List (List Char × Bool)) (line : List Char)
  | comment
  | expression (depth : Nat)
  | expressionEnd
  deriving DecidableEq, Repr

namespace Opening

def isQuoted : List Opening -> Bool
  | .double :: _ => true
  | .parameter quoted :: _ => quoted
  | .brace quoted :: _ => quoted
  | .expression _ :: _ => true
  | _ => false

/-- What opens with a character outside of everything, in parentheses or in
braces. -/
def opens? (c : Char) : Option Opening :=
  match c with
  | '\\' => some .escape
  | '\'' => some .single
  | '"' => some .double
  | '$' => some .dollar
  | _ => if c = backquote then some .back else none

def stepExpression (depth : Nat) (outer : List Opening) (c : Char) : List Opening :=
  if c = '(' then .expression (depth + 1) :: outer
  else if c = ')' then
    if depth = 0 then .expressionEnd :: outer else .expression (depth - 1) :: outer
  else if c = '"' ∨ c = '\'' then .expression depth :: outer
  else (opens? c).toList ++ .expression depth :: outer

def stepBrace (quoted : Bool) (outer : List Opening) (c : Char) : List Opening :=
  if c = '\x7d' then outer
  else if c = '\'' ∧ quoted then .brace quoted :: outer
  else (opens? c).toList ++ .brace quoted :: outer

def stepParen (p : Inner) (outer : List Opening) (c : Char) : List Opening :=
  if endsWord c then
    let after := p.endWord c
    if c = '<' ∧ p.asking ∧ p.word.isEmpty then
      .delimiter false [] none :: .paren after :: outer
    else if c = '\n' ∧ ! p.documents.isEmpty then
      .documents p.documents [] :: .paren { after with documents := [] } :: outer
    else if c = '(' then .paren {} :: .paren after :: outer
    else if c = ')' ∧ after.cases = 0 then outer
    else .paren after :: outer
  else if c = '#' ∧ p.word.isEmpty then .comment :: .paren p :: outer
  else (opens? c).toList ++ .paren { p with word := c :: p.word, asking := false } :: outer

def stepDelimiter (tabs : Bool) (text : List Char) (quote? : Option Char)
    (outer : List Opening) (c : Char) : List Opening :=
  match quote? with
  | some q =>
      if q = '\\' then .delimiter tabs (c :: text) none :: outer
      else if c = q then .delimiter tabs text none :: outer
      else .delimiter tabs (c :: text) (some q) :: outer
  | none =>
      if c = '\'' ∨ c = '"' ∨ c = '\\' then .delimiter tabs text (some c) :: outer
      else if ! endsWord c then
        if c = '-' ∧ text.isEmpty ∧ ! tabs then .delimiter true text none :: outer
        else .delimiter tabs (c :: text) none :: outer
      else if text.isEmpty ∧ (c = ' ' ∨ c = '\t') then .delimiter tabs text none :: outer
      else
        match outer with
        | .paren p :: outer =>
            stepParen { p with documents := p.documents ++ [(text.reverse, tabs)] } outer c
        | _ => outer

def stepDocuments (wanted : List (List Char × Bool)) (line : List Char)
    (outer : List Opening) (c : Char) : List Opening :=
  match wanted with
  | [] => outer
  | (ending, tabs) :: rest =>
      if c ≠ '\n' then .documents wanted (c :: line) :: outer
      else
        let text := if tabs then line.reverse.dropWhile (· = '\t') else line.reverse
        if text ≠ ending then .documents wanted [] :: outer
        else if rest.isEmpty then outer
        else .documents rest [] :: outer

def step : List Opening -> Char -> List Opening
  | .escape :: outer, _ => outer
  | .dollar :: outer, c =>
      if c = '(' then .command :: outer
      else if c = '\x7b' then .parameter (isQuoted outer) :: outer
      else if c = '$' then outer
      else step outer c
  | .single :: outer, c => if c = '\'' then outer else .single :: outer
  | .double :: outer, c =>
      if c = '"' then outer
      else if c = '\'' then .double :: outer
      else (opens? c).toList ++ .double :: outer
  | .back :: outer, c =>
      if c = backquote then outer
      else if c = '\\' then .escape :: .back :: outer
      else .back :: outer
  | .parameter quoted :: outer, c =>
      if isNameChar c then .parameter quoted :: outer
      else if c = '#' ∨ c = '%' then .brace false :: outer
      else stepBrace quoted outer c
  | .brace quoted :: outer, c => stepBrace quoted outer c
  | .command :: outer, c =>
      if c = '(' then .expression 0 :: outer else stepParen {} outer c
  | .expression depth :: outer, c => stepExpression depth outer c
  | .expressionEnd :: outer, c =>
      if c = ')' then outer else stepExpression 0 outer c
  | .paren inner :: outer, c => stepParen inner outer c
  | .delimiter tabs text quote? :: outer, c => stepDelimiter tabs text quote? outer c
  | .documents wanted line :: outer, c => stepDocuments wanted line outer c
  | .comment :: outer, c => if c = '\n' then step outer c else .comment :: outer
  | [], c => (opens? c).toList

/-- The characters up to the end of what is open, and those after it; none when
it has no end. -/
def span? : List Opening -> List Char -> Option (List Char × List Char)
  | [], cs => some ([], cs)
  | _ :: _, [] => none
  | stack, c :: cs => (span? (step stack c) cs).map fun (inside, rest) => (c :: inside, rest)

def inside? (opening : Opening) (cs : List Char) : Option (List Char × List Char) :=
  (span? [opening] cs).map fun (inside, rest) => (inside.dropLast, rest)

def settled (stack : List Opening) (c : Char) : List Opening :=
  match stack with
  | .dollar :: outer => if c = '(' ∨ c = '\x7b' then stack else outer
  | _ => stack

/-- The characters of a word and those after it; what is left open when the
text ends inside the word. -/
def spanWord : List Opening -> List Char -> List Char × List Char × List Opening
  | stack, [] => ([], [], stack)
  | stack, c :: cs =>
      if (settled stack c).isEmpty && endsWord c then ([], c :: cs, [])
      else
        let (word, rest, left) := spanWord (step stack c) cs
        (c :: word, rest, left)

end Opening

/-!
## Reading words
-/

def isName (cs : List Char) : Bool :=
  ! cs.isEmpty && cs.all isNameChar && ! cs.head?.any Char.isDigit

def isSpecial (c : Char) : Bool := "@*#?$!-".toList.contains c

def spanParameter : List Char -> List Char × List Char
  | [] => ([], [])
  | c :: cs =>
      if isSpecial c then ([c], cs)
      else if c.isDigit then (c :: cs).span Char.isDigit
      else (c :: cs).span isNameChar

/-- The edit that signs after the name of a parameter ask for, and what follows
them. -/
def Edit.ofSigns : List Char -> Edit × List Char
  | [] => (.whole, [])
  | ':' :: '-' :: cs => (.default true, cs)
  | '-' :: cs => (.default false, cs)
  | ':' :: '=' :: cs => (.assign true, cs)
  | '=' :: cs => (.assign false, cs)
  | ':' :: '?' :: cs => (.require true, cs)
  | '?' :: cs => (.require false, cs)
  | ':' :: '+' :: cs => (.replace true, cs)
  | '+' :: cs => (.replace false, cs)
  | '#' :: '#' :: cs => (.cutFront true, cs)
  | '#' :: cs => (.cutFront false, cs)
  | '%' :: '%' :: cs => (.cutBack true, cs)
  | '%' :: cs => (.cutBack false, cs)
  | cs => (.bad, cs)

/-- Whether an edit takes its word as a pattern, which no quotes around it
protect. -/
def Edit.cuts : Edit -> Bool
  | cutFront _ => true
  | cutBack _ => true
  | _ => false

def readBraces (inside : List Char) : List Char × Edit × List Char :=
  let ordinary :=
    let (name, rest) := spanParameter inside
    let (edit, word) := Edit.ofSigns rest
    (name, if name.isEmpty then .bad else edit, word)
  match inside with
  | '#' :: c :: cs =>
      match spanParameter (c :: cs) with
      | (name, []) => (name, .length, [])
      | _ => ordinary
  | _ => ordinary

inductive Context where
  | plain
  | double
  | braces
  | document
  deriving DecidableEq, Repr

def Context.isDouble (context : Context) : Bool :=
  match context with
  | double => true
  | braces => true
  | _ => false

def Context.escapes (context : Context) (c : Char) : Bool :=
  match context with
  | plain => true
  | double => c = '$' || c = '"' || c = '\\' || c = backquote
  | braces => c = '$' || c = '"' || c = '\\' || c = backquote || c = '\x7d'
  | document => c = '$' || c = '\\' || c = backquote

/-- A command between back quotes without the backslashes that only protect it
from being read too early. -/
def unescapeBack (context : Context) : List Char -> List Char
  | '\\' :: c :: cs =>
      if c = '$' ∨ c = '\\' ∨ c = backquote ∨ (c = '"' ∧ context.isDouble) then
        c :: unescapeBack context cs
      else '\\' :: c :: unescapeBack context cs
  | c :: cs => c :: unescapeBack context cs
  | [] => []

def hasArguments (pieces : List Piece) : Bool :=
  pieces.any fun
    | .parameter ['@'] _ _ _ => true
    | _ => false

def lineEnds (cs : List Char) : Nat := cs.count '\n'

/-- The pieces of a text that ends in a certain line.  The fuel bounds the number
of characters. -/
def readPieces : Nat -> Context -> Nat -> List Char -> List Piece
  | 0, _, _, _ => []
  | fuel + 1, context, last, cs =>
      let quoted := context ≠ .plain
      let further := readPieces fuel context last
      let put (name : List Char) (rest : List Char) : List Piece :=
        .parameter name .whole [] quoted :: further rest
      match cs with
      | [] => []
      | ['\\'] => [.char '\\' true]
      | '\\' :: '\n' :: rest => further rest
      | '\\' :: c :: rest =>
          if context.escapes c then .char c true :: further rest
          else .char '\\' quoted :: .char c quoted :: further rest
      | '\'' :: rest =>
          match if quoted then none else Opening.inside? .single rest with
          | some (text, rest) =>
              .quotation :: text.map (.char · true) ++ further rest
          | none => .char '\'' quoted :: further rest
      | '"' :: rest =>
          match if context = .document then none else Opening.inside? .double rest with
          | some (text, rest) =>
              let pieces := readPieces fuel .double (last - lineEnds rest) text
              let mark : List Piece :=
                if quoted || hasArguments pieces then [] else [.quotation]
              mark ++ pieces ++ further rest
          | none => .char '"' quoted :: further rest
      | '$' :: '(' :: '(' :: rest =>
          match Opening.inside? (.expression 0) rest with
          | some (expression, rest) =>
              let pieces :=
                readPieces fuel .document (last - lineEnds rest) expression.dropLast
              .arithmetic pieces quoted :: further rest
          | none => .char '$' quoted :: further ('(' :: '(' :: rest)
      | '$' :: '(' :: rest =>
          match Opening.inside? (.paren {}) rest with
          | some (script, rest) =>
              .command script (some (last - lineEnds rest - lineEnds script)) quoted ::
                further rest
          | none => .char '$' quoted :: further ('(' :: rest)
      | '$' :: '\x7b' :: rest =>
          match Opening.inside? (.parameter quoted) rest with
          | some (text, rest) =>
              let (name, edit, word) := readBraces text
              let inner := if quoted && ! edit.cuts then .braces else .plain
              let pieces := readPieces fuel inner (last - lineEnds rest) word
              .parameter name edit pieces quoted :: further rest
          | none => .char '$' quoted :: further ('\x7b' :: rest)
      | '$' :: c :: rest =>
          if isSpecial c || c.isDigit then put [c] rest
          else if isNameChar c then
            let (name, rest) := (c :: rest).span isNameChar
            put name rest
          else .char '$' quoted :: further (c :: rest)
      | c :: rest =>
          if c = backquote then
            match Opening.inside? .back rest with
            | some (script, rest) =>
                .command (unescapeBack context script) none quoted :: further rest
            | none => .char c quoted :: further rest
          else .char c quoted :: further rest

def Word.ofText (context : Context) (last : Nat) (cs : List Char) : Word :=
  readPieces (cs.length + 1) context last cs

def Word.literal? (w : Word) : Option (List Char) :=
  w.mapM fun
    | .char c false => some c
    | _ => none

def unquoted (cs : List Char) : List Char :=
  (Word.ofText .plain 0 cs).filterMap fun
    | .char c _ => some c
    | _ => none

def Word.assignment? (w : Word) : Option (List Char × Word) :=
  let name := w.takeWhile fun
    | .char c false => isNameChar c
    | _ => false
  match Word.literal? name, w.drop name.length with
  | some text, .char '=' false :: value =>
      if isName text then some (text, value) else none
  | _, _ => none

end Shell
end TraceAdapter
