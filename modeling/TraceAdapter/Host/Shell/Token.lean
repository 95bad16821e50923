import TraceAdapter.Host.Shell.Word

/-!
# Signs and lines of shell scripts

A script is divided into words and signs.  The text of a document that stands
in the script is moved to the sign that asks for it.
-/

namespace TraceAdapter
namespace Shell

inductive Redirect where
  | read
  | write
  | writeOver
  | append
  | readWrite
  | copy
  | document (body : Word)
  deriving Repr

inductive Token where
  | word (text : List Char)
  | newline
  | sign (text : String)
  | redirect (descriptor : Nat) (how : Redirect)
  | body (w : Word)
  | fault (text : String)
  | finish
  deriving Repr

structure Located where
  token : Token
  line : Nat
  deriving Repr

namespace Token

def unclosed? : List Opening -> Option String
  | [] => none
  | .escape :: outer => unclosed? outer
  | .dollar :: outer => unclosed? outer
  | .comment :: outer => unclosed? outer
  | .delimiter _ _ _ :: outer => unclosed? outer
  | .documents _ _ :: outer => unclosed? outer
  | .back :: _ => some "EOF in backquote substitution"
  | .command :: _ => some "end of file unexpected (expecting \")\")"
  | .paren _ :: _ => some "end of file unexpected (expecting \")\")"
  | .expression _ :: _ => some "Missing '))'"
  | .expressionEnd :: _ => some "Missing '))'"
  | .parameter false :: _ => some "Missing '\x7d'"
  | .parameter true :: _ => some "Unterminated quoted string"
  | .brace false :: _ => some "Missing '\x7d'"
  | .brace true :: _ => some "Unterminated quoted string"
  | .single :: _ => some "Unterminated quoted string"
  | .double :: _ => some "Unterminated quoted string"

/-!
## Documents
-/

/-- A document that is asked for: the line that ends it, whether tabs in front
of its lines are dropped, and whether it is taken as it stands. -/
structure Wanted where
  ending : List Char
  tabs : Bool
  raw : Bool

def Wanted.ofDelimiter (tabs : Bool) (text : List Char) : Wanted where
  ending := unquoted text
  tabs := tabs
  raw := text.any fun c => c = '\'' || c = '"' || c = '\\'

def spanLine : List Char -> List Char × List Char
  | [] => ([], [])
  | '\n' :: cs => (['\n'], cs)
  | c :: cs =>
      let (line, rest) := spanLine cs
      (c :: line, rest)

/-- The text of a document and what follows it.  The fuel bounds the number of
lines. -/
def Wanted.read (w : Wanted) : Nat -> List Char -> List Char × List Char
  | 0, cs => ([], cs)
  | _, [] => ([], [])
  | fuel + 1, cs =>
      let (line, rest) := spanLine cs
      let line := if w.tabs then line.dropWhile (· = '\t') else line
      if line = w.ending ∨ line = w.ending ++ ['\n'] then ([], rest)
      else
        let (text, rest) := w.read fuel rest
        (line ++ text, rest)

def Wanted.word (w : Wanted) (last : Nat) (text : List Char) : Word :=
  if w.raw then text.map (.char · true) else Word.ofText .document last text

/-- The documents that are asked for, in their order, and what follows them.  The
first one begins in a certain line. -/
def readDocuments : List Wanted -> Nat -> List Char -> List Word × List Char
  | [], _, cs => ([], cs)
  | w :: ws, line, cs =>
      let (text, rest) := w.read (cs.length + 1) cs
      let last := line + lineEnds text
      let (words, rest) := readDocuments ws (last + 1) rest
      (w.word last text :: words, rest)

/-!
## Tokens
-/

def sign? : List Char -> Option (Token × List Char)
  | ';' :: ';' :: cs => some (.sign ";;", cs)
  | ';' :: cs => some (.sign ";", cs)
  | '&' :: '&' :: cs => some (.sign "&&", cs)
  | '&' :: cs => some (.sign "&", cs)
  | '|' :: '|' :: cs => some (.sign "||", cs)
  | '|' :: cs => some (.sign "|", cs)
  | '(' :: cs => some (.sign "(", cs)
  | ')' :: cs => some (.sign ")", cs)
  | _ => none

def redirect? : List Char -> Option (Nat × Redirect × List Char)
  | '<' :: '&' :: cs => some (0, .copy, cs)
  | '<' :: '>' :: cs => some (0, .readWrite, cs)
  | '<' :: cs => some (0, .read, cs)
  | '>' :: '>' :: cs => some (1, .append, cs)
  | '>' :: '&' :: cs => some (1, .copy, cs)
  | '>' :: '|' :: cs => some (1, .writeOver, cs)
  | '>' :: cs => some (1, .write, cs)
  | _ => none

/-- The sign in front that asks for a document: whether tabs are dropped, and
what follows it. -/
def document? : List Char -> Option (Bool × List Char)
  | '<' :: '<' :: '-' :: cs => some (true, cs)
  | '<' :: '<' :: cs => some (false, cs)
  | _ => none

def descriptor? : List Char -> Option (Nat × List Char)
  | d :: c :: cs =>
      if d.isDigit && (c = '<' || c = '>') then some (d.toNat - 48, c :: cs) else none
  | _ => none

/-- The state of reading: the line, the documents asked for, in reverse, and
whether the next word is the delimiter of one. -/
structure Reading where
  line : Nat
  wanted : List Wanted := []
  delimiter? : Option Bool := none

/-- The tokens of a text.  The fuel bounds the number of characters. -/
def read : Nat -> Reading -> List Char -> List Located
  | 0, _, _ => []
  | fuel + 1, r, cs =>
      let (given?, after) :=
        match descriptor? cs with
        | some (d, rest) => (some d, rest)
        | none => (none, cs)
      match document? after, redirect? after with
      | some (tabs, rest), _ =>
          ⟨.redirect (given?.getD 0) (.document []), r.line⟩ ::
            read fuel { r with delimiter? := some tabs } rest
      | none, some (usual, how, rest) =>
          ⟨.redirect (given?.getD usual) how, r.line⟩ :: read fuel r rest
      | none, none =>
          match cs with
          | [] =>
              r.wanted.reverse.map (fun w => ⟨.body (w.word r.line []), r.line⟩) ++
                [⟨.finish, r.line⟩]
          | '\\' :: '\n' :: rest => read fuel { r with line := r.line + 1 } rest
          | '\n' :: rest =>
              let line := r.line + 1
              let (words, left) := readDocuments r.wanted.reverse line rest
              let taken := rest.take (rest.length - left.length)
              ⟨.newline, line⟩ :: words.map (fun w => ⟨.body w, line⟩) ++
                read fuel { line := line + lineEnds taken } left
          | '#' :: rest => read fuel r (rest.dropWhile (· ≠ '\n'))
          | c :: rest =>
              if c = ' ' ∨ c = '\t' then read fuel r rest
              else
                match sign? cs with
                | some (token, rest) => ⟨token, r.line⟩ :: read fuel r rest
                | none =>
                    let (text, rest, left) := Opening.spanWord [] cs
                    let line := r.line + lineEnds text
                    match unclosed? left with
                    | some message => [⟨.fault message, line⟩]
                    | none =>
                        ⟨.word text, line⟩ ::
                          match r.delimiter? with
                          | none => read fuel { r with line } rest
                          | some tabs =>
                              read fuel
                                { line
                                  wanted := .ofDelimiter tabs text :: r.wanted }
                                rest

def attach : List Word -> List Located -> List Located
  | _, [] => []
  | words, t :: rest =>
      match t.token, words with
      | .body _, _ => attach words rest
      | .redirect d (.document _), w :: ws =>
          ⟨.redirect d (.document w), t.line⟩ :: attach ws rest
      | _, _ => t :: attach words rest

def scan (line : Nat) (script : List Char) : List Located :=
  let tokens := read (script.length + 1) { line } script
  attach
    (tokens.filterMap fun t =>
      match t.token with
      | .body w => some w
      | _ => none)
    tokens

end Token
end Shell
end TraceAdapter
