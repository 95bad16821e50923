import TraceAdapter.Host.Shell.Token

/-!
# Commands of shell scripts

The grammar of scripts.  A script is read line by line: a line is all that
belongs to the commands begun in it, so it may go on over several lines of
text.
-/

namespace TraceAdapter
namespace Shell

structure Redirection where
  descriptor : Nat
  how : Redirect
  word : Word
  deriving Repr

inductive Command where
  | nothing
  | simple (line : Nat) (words : List Word) (redirections : List Redirection)
  | pipeline (stages : List Command)
  | negation (c : Command)
  | andThen (first second : Command)
  | orElse (first second : Command)
  | sequence (first second : Command)
  | background (c : Command)
  | redirected (line : Nat) (c : Command) (redirections : List Redirection)
  | subshell (c : Command)
  | conditional (test yes no : Command)
  | loop (wanted : Bool) (test body : Command)
  | forEach (name : List Char) (words? : Option (List Word)) (body : Command)
  | cases (word : Word) (arms : List (List Word × Command))
  | define (name : List Char) (body : Command)
  deriving Repr, Inhabited

structure GrammarFault where
  line : Nat
  text : String
  deriving DecidableEq, Repr

namespace Command

abbrev Parsed (α : Type) := Except GrammarFault (α × List Located)

/-!
## Tokens in front
-/

def keywords : List String :=
  ["!", "case", "do", "done", "elif", "else", "esac", "fi", "for", "if", "in",
    "then", "until", "while", "\x7b", "\x7d"]

def front : List Located -> Located
  | t :: _ => t
  | [] => ⟨.finish, 0⟩

def keyword? (ts : List Located) : Option String :=
  match (front ts).token with
  | .word text => keywords.find? fun k => k.toList = text
  | _ => none

def isSign (text : String) (ts : List Located) : Bool :=
  match (front ts).token with
  | .sign t => t = text
  | _ => false

def endsList (ts : List Located) : Bool :=
  match (front ts).token with
  | .finish => true
  | .sign t => t = ")" || t = ";;"
  | .word _ =>
      (keyword? ts).any
        ["do", "done", "elif", "else", "esac", "fi", "then", "\x7d"].contains
  | _ => false

def named (text : String) : String := "\"" ++ text ++ "\""

/-- The name of the token in front.  Keywords have one of their own where they
are looked for. -/
def tokenName (keywords : Bool) (ts : List Located) : String :=
  match (front ts).token with
  | .word _ => if keywords then ((keyword? ts).map named).getD "word" else "word"
  | .newline => "newline"
  | .sign text => named text
  | .redirect _ _ => "redirection"
  | _ => "end of file"

/-- The fault of the token in front, where perhaps a certain one was
expected. -/
def misplaced {α : Type} (keywords : Bool) (expected? : Option String)
    (ts : List Located) : Parsed α :=
  match (front ts).token with
  | .fault text => .error ⟨(front ts).line, text⟩
  | _ =>
      let tail :=
        match expected? with
        | some "word" => " (expecting word)"
        | some text => " (expecting " ++ named text ++ ")"
        | none => ""
      .error ⟨(front ts).line, tokenName keywords ts ++ " unexpected" ++ tail⟩

def unexpected {α : Type} (expected? : Option String) (ts : List Located) : Parsed α :=
  misplaced true expected? ts

def expectKeyword (text : String) (ts : List Located) : Parsed Unit :=
  if keyword? ts = some text then .ok ((), ts.tail) else unexpected (some text) ts

def expectSign (text : String) (ts : List Located) : Parsed Unit :=
  if isSign text ts then .ok ((), ts.tail) else unexpected (some text) ts

def expectClosing (ts : List Located) : Parsed Unit :=
  if isSign ")" ts then .ok ((), ts.tail) else misplaced false (some ")") ts

def skipLines : List Located -> List Located
  | ⟨.newline, _⟩ :: ts => skipLines ts
  | ts => ts

/-!
## Redirections and simple commands
-/

def readRedirections : List Located -> Parsed (List Redirection)
  | ⟨.redirect d how, _⟩ :: ⟨.word text, line⟩ :: ts =>
      (readRedirections ts).map fun (rs, ts) =>
        (⟨d, how, .ofText .plain line text⟩ :: rs, ts)
  | ⟨.redirect _ _, _⟩ :: ts => unexpected none ts
  | ts => .ok ([], ts)

def readWords : List Located -> Parsed (List Word × List Redirection)
  | ⟨.redirect d how, _⟩ :: ⟨.word text, line⟩ :: ts =>
      (readWords ts).map fun ((ws, rs), ts) =>
        ((ws, ⟨d, how, .ofText .plain line text⟩ :: rs), ts)
  | ⟨.redirect _ _, _⟩ :: ts => unexpected none ts
  | ⟨.word text, line⟩ :: ts =>
      (readWords ts).map fun ((ws, rs), ts) =>
        ((.ofText .plain line text :: ws, rs), ts)
  | ⟨.fault text, line⟩ :: _ => .error ⟨line, text⟩
  | ts => .ok (([], []), ts)

def spanWords : List Located -> List Word × List Located
  | ⟨.word text, line⟩ :: ts =>
      let (ws, ts) := spanWords ts
      (.ofText .plain line text :: ws, ts)
  | ts => ([], ts)

def specials : List String :=
  [".", ":", "break", "continue", "eval", "exec", "exit", "export", "readonly",
    "return", "set", "shift", "times", "trap", "unset"]

/-- Take the patterns of an arm, divided by bars.  What stands in the place of one
is passed over. -/
def readPatterns : Nat -> List Located -> Parsed (List Word)
  | fuel + 1, ⟨.word text, line⟩ :: ts =>
      let w := Word.ofText .plain line text
      if isSign "|" ts then
        (readPatterns fuel ts.tail).map fun (ws, ts) => (w :: ws, ts)
      else .ok ([w], ts)
  | _, ts =>
      match (front ts).token with
      | .finish => misplaced false (some ")") ts
      | .fault _ => unexpected none ts
      | _ => misplaced false (some ")") ts.tail

def followedBy : Option Command -> Command -> Command
  | none, second => second
  | some first, second => .sequence first second

/-!
## Compound commands
-/

def readTail (c : Command) (ts : List Located) : Parsed Command :=
  match readRedirections ts with
  | .error e => .error e
  | .ok ([], ts) => .ok (c, ts)
  | .ok (rs, rest) => .ok (.redirected (front ts).line c rs, rest)

mutual

/-- Take a list of commands up to a token that ends it.  `armed` says whether
such a token is one already at the start. -/
def readList (fuel : Nat) (armed : Bool) (before? : Option Command)
    (ts : List Located) : Parsed Command :=
  match fuel with
  | 0 => unexpected none ts
  | fuel + 1 =>
      let ts := skipLines ts
      if (front ts).token matches .finish || (armed && endsList ts) then
        .ok (before?.getD .nothing, ts)
      else
        match readAndOr fuel ts with
        | .error e => .error e
        | .ok (c, ts) =>
            if isSign "&" ts then
              readList fuel true (followedBy before? (.background c)) ts.tail
            else
              let list := followedBy before? c
              if isSign ";" ts then readList fuel true list ts.tail
              else if (front ts).token matches .newline then readList fuel true list ts
              else .ok (list, ts)

def readAndOr (fuel : Nat) (ts : List Located) : Parsed Command :=
  match fuel with
  | 0 => unexpected none ts
  | fuel + 1 =>
      match readPipeline fuel ts with
      | .error e => .error e
      | .ok (c, ts) => readJoined fuel c ts

def readJoined (fuel : Nat) (before : Command) (ts : List Located) : Parsed Command :=
  match fuel with
  | 0 => unexpected none ts
  | fuel + 1 =>
      if isSign "&&" ts || isSign "||" ts then
        match readPipeline fuel (skipLines ts.tail) with
        | .error e => .error e
        | .ok (c, rest) =>
            readJoined fuel
              (if isSign "&&" ts then .andThen before c else .orElse before c) rest
      else .ok (before, ts)

def readPipeline (fuel : Nat) (ts : List Located) : Parsed Command :=
  match fuel with
  | 0 => unexpected none ts
  | fuel + 1 =>
      if keyword? ts = some "!" then
        (readPipeline fuel ts.tail).map fun (c, ts) => (.negation c, ts)
      else
        match readStages fuel ts with
        | .error e => .error e
        | .ok ([c], ts) => .ok (c, ts)
        | .ok (cs, ts) => .ok (.pipeline cs, ts)

def readStages (fuel : Nat) (ts : List Located) : Parsed (List Command) :=
  match fuel with
  | 0 => unexpected none ts
  | fuel + 1 =>
      match readCommand fuel ts with
      | .error e => .error e
      | .ok (c, ts) =>
          if isSign "|" ts then
            (readStages fuel (skipLines ts.tail)).map fun (cs, ts) => (c :: cs, ts)
          else .ok ([c], ts)

def readBody (fuel : Nat) (ts : List Located) : Parsed Command :=
  match fuel with
  | 0 => unexpected none ts
  | fuel + 1 =>
      match expectKeyword "do" ts with
      | .error e => .error e
      | .ok (_, ts) =>
          match readList fuel false none ts with
          | .error e => .error e
          | .ok (body, ts) => (expectKeyword "done" ts).map fun (_, ts) => (body, ts)

def readConditional (fuel : Nat) (ts : List Located) : Parsed Command :=
  match fuel with
  | 0 => unexpected none ts
  | fuel + 1 =>
      match readList fuel false none ts with
      | .error e => .error e
      | .ok (test, ts) =>
          match expectKeyword "then" ts with
          | .error e => .error e
          | .ok (_, ts) =>
              match readList fuel false none ts with
              | .error e => .error e
              | .ok (yes, ts) =>
                  match keyword? ts with
                  | some "elif" =>
                      (readConditional fuel ts.tail).map fun (no, ts) =>
                        (.conditional test yes no, ts)
                  | some "else" =>
                      match readList fuel false none ts.tail with
                      | .error e => .error e
                      | .ok (no, ts) =>
                          (expectKeyword "fi" ts).map fun (_, ts) =>
                            (.conditional test yes no, ts)
                  | _ =>
                      (expectKeyword "fi" ts).map fun (_, ts) =>
                        (.conditional test yes .nothing, ts)

def readArms (fuel : Nat) (ts : List Located) : Parsed (List (List Word × Command)) :=
  match fuel with
  | 0 => unexpected none ts
  | fuel + 1 =>
      let ts := skipLines ts
      if keyword? ts = some "esac" then .ok ([], ts.tail)
      else
        let ts := if isSign "(" ts then ts.tail else ts
        match readPatterns fuel ts with
        | .error e => .error e
        | .ok (patterns, ts) =>
            match expectClosing ts with
            | .error e => .error e
            | .ok (_, ts) =>
                match readList fuel true none ts with
                | .error e => .error e
                | .ok (body, ts) =>
                    if keyword? ts = some "esac" then
                      .ok ([(patterns, body)], ts.tail)
                    else
                      match expectSign ";;" ts with
                      | .error e => .error e
                      | .ok (_, ts) =>
                          (readArms fuel ts).map fun (arms, ts) =>
                            ((patterns, body) :: arms, ts)

def readForEach (fuel : Nat) (ts : List Located) : Parsed Command :=
  match fuel, ts with
  | fuel + 1, ⟨.word name, line⟩ :: ts =>
      if ! isName name then .error ⟨line, "Bad for loop variable"⟩
      else
        let body (words? : Option (List Word)) (ts : List Located) : Parsed Command :=
          (readBody fuel (skipLines ts)).map fun (c, ts) => (.forEach name words? c, ts)
        if keyword? (skipLines ts) = some "in" then
          let (words, ts) := spanWords (skipLines ts).tail
          if isSign ";" ts || (front ts).token matches .newline then
            body (some words) ts.tail
          else unexpected none ts
        else if isSign ";" ts then body none ts.tail
        else body none ts
  | _, ⟨.fault text, line⟩ :: _ => .error ⟨line, text⟩
  | _, ts => .error ⟨(front ts).line, "Bad for loop variable"⟩

def readCommand (fuel : Nat) (ts : List Located) : Parsed Command :=
  match fuel with
  | 0 => unexpected none ts
  | fuel + 1 =>
      let listUpTo (ending : List Located -> Parsed Unit) (wrap : Command -> Command) :
          Parsed Command :=
        match readList fuel false none ts.tail with
        | .error e => .error e
        | .ok (c, ts) =>
            match ending ts with
            | .error e => .error e
            | .ok (_, ts) => readTail (wrap c) ts
      let closed (part : Parsed Command) : Parsed Command :=
        match part with
        | .error e => .error e
        | .ok (c, ts) => readTail c ts
      let loop (wanted : Bool) : Parsed Command :=
        match readList fuel false none ts.tail with
        | .error e => .error e
        | .ok (test, ts) =>
            match readBody fuel ts with
            | .error e => .error e
            | .ok (body, ts) => readTail (.loop wanted test body) ts
      match (front ts).token, keyword? ts with
      | .sign "(", _ => listUpTo (expectSign ")") .subshell
      | _, some "\x7b" => listUpTo (expectKeyword "\x7d") id
      | _, some "if" => closed (readConditional fuel ts.tail)
      | _, some "while" => loop true
      | _, some "until" => loop false
      | _, some "for" => closed (readForEach fuel ts.tail)
      | _, some "case" =>
          match ts.tail with
          | ⟨.word text, line⟩ :: rest =>
              match expectKeyword "in" (skipLines rest) with
              | .error e => .error e
              | .ok (_, rest) =>
                  match readArms fuel rest with
                  | .error e => .error e
                  | .ok (arms, rest) =>
                      readTail (.cases (.ofText .plain line text) arms) rest
          | rest => unexpected (some "word") rest
      | _, some _ => unexpected none ts
      | .word name, none =>
          if isSign "(" ts.tail then
            match expectClosing ts.tail.tail with
            | .error e => .error e
            | .ok (_, rest) =>
                if isName name && ! specials.contains (String.ofList name) then
                  (readCommand fuel (skipLines rest)).map fun (c, rest) =>
                    (.define name c, rest)
                else .error ⟨(front ts.tail.tail).line, "Bad function name"⟩
          else
            (readWords ts).map fun ((ws, rs), rest) =>
              (.simple (front ts).line ws rs, rest)
      | .redirect _ _, none =>
          (readWords ts).map fun ((ws, rs), rest) =>
            (.simple (front ts).line ws rs, rest)
      | _, none => unexpected none ts

end

/-!
## Lines
-/

def readLine (fuel : Nat) (before? : Option Command) (ts : List Located) :
    Parsed Command :=
  match fuel with
  | 0 => unexpected none ts
  | fuel + 1 =>
      match (front ts).token with
      | .newline => .ok (before?.getD .nothing, ts.tail)
      | .finish => .ok (before?.getD .nothing, ts)
      | _ =>
          match readAndOr fuel ts with
          | .error e => .error e
          | .ok (c, ts) =>
              if isSign "&" ts then
                readLine fuel (followedBy before? (.background c)) ts.tail
              else
                let list := followedBy before? c
                if isSign ";" ts then readLine fuel list ts.tail
                else
                  match (front ts).token with
                  | .newline => .ok (list, ts.tail)
                  | .finish => .ok (list, ts)
                  | _ => unexpected none ts

/-- Read a script in a word.  Between parentheses it is all there is; between back
quotes it ends where no command can go on. -/
def ofInner (script : List Char) (line? : Option Nat) : Except GrammarFault Command :=
  match line? with
  | none =>
      let ts := Token.scan 1 script
      (readList (6 * ts.length + 6) true none ts).map Prod.fst
  | some line =>
      let ts := Token.scan line (script ++ [')'])
      match readList (6 * ts.length + 6) true none ts with
      | .error e => .error e
      | .ok (c, ts) => (expectSign ")" ts).map fun _ => c

end Command
end Shell
end TraceAdapter
