import TraceAdapter.Host.Shell.Tool.Goal

/-!
# Feeding programs

Programs are run with words that are read from a text, so many at a time.
-/

namespace TraceAdapter
namespace Shell
namespace Tool

/-!
## Reading items
-/

structure FedItem where
  text : List Char
  line : Nat

structure Fed where
  items : List FedItem := []
  fault? : Option (List Char) := none

def Fed.cons (f : Fed) (line : Nat) (inside : Option (List Char)) : Fed :=
  match inside with
  | none => f
  | some text => { f with items := ⟨text.reverse.takeWhile (· ≠ Char.ofNat 0), line⟩ :: f.items }

structure FedManner where
  /-- Whether only ends of lines divide them. -/
  wholeLines : Bool
  last? : Option (List Char)

/-- Read items, quotes and backslashes keeping together what they stand around.
`inside` is an item being read, in reverse; a line does not end where a blank stands
before its end. -/
def readFed (m : FedManner) : Nat -> Nat -> Option (List Char) -> Char -> List Char -> Fed
  | 0, _, _, _, _ => {}
  | _, line, inside, _, [] => Fed.cons {} line inside
  | fuel + 1, line, inside, before, c :: cs =>
      let isLast := inside.isSome && inside.map List.reverse = m.last?
      if c = '\n' then
        if isLast then {}
        else
          let next := if isBlank before then line else line + 1
          match inside with
          | none => readFed m fuel line none c cs
          | some _ => (readFed m fuel next none c cs).cons line inside
      else if inside.isNone ∧ isSpace c then readFed m fuel line none c cs
      else if isBlank c ∧ ! m.wholeLines then
        if isLast then {} else (readFed m fuel line none c cs).cons line inside
      else if c = '\'' ∨ c = '"' then
        let (text, rest) := cs.span fun d => d ≠ c && d ≠ '\n'
        if rest.head? ≠ some c then
          { fault? := some
              ("unmatched ".toList ++ (if c = '"' then "double" else "single").toList ++
                (" quote; by default quotes are special to xargs unless you use the -0 " ++
                  "option").toList) }
        else readFed m fuel line (some (text.reverse ++ inside.getD [])) c rest.tail
      else if c = '\\' then
        match cs with
        | d :: rest => readFed m fuel line (some (d :: inside.getD [])) d rest
        | [] => Fed.cons {} line inside
      else readFed m fuel line (some (c :: inside.getD [])) c cs

def dividedFed (c : Char) (text : List Char) : Fed where
  items := (pieces c text).map fun p => ⟨if p.getLast? = some c then p.dropLast else p, 0⟩

def dividerOf? : List Char -> Option Char
  | [c] => some c
  | ['\\', 'n'] => some '\n'
  | ['\\', 't'] => some '\t'
  | ['\\', 'r'] => some '\r'
  | ['\\', '\\'] => some '\\'
  | '\\' :: '0' :: ds => (Numeral.ofDigits? 8 ('0' :: ds)).map Char.ofNat
  | '\\' :: 'x' :: ds => (Numeral.ofDigits? 16 ds).map Char.ofNat
  | _ => none

/-!
## Commands
-/

structure FedLimits where
  items? : Option Nat := none
  lines? : Option Nat := none
  chars : Nat := 131072
  strict : Bool := false

/-- The commands made of items, those of `program` standing in front, and what is
wrong in the end.  `taken` are items for the next one, in reverse. -/
def fedCommands (program : List (List Char)) (l : FedLimits) :
    List FedItem -> List FedItem -> Option (List Char) ->
      List (List (List Char)) × Option (List Char)
  | taken, [], none => (if taken.isEmpty then [] else
      [program ++ taken.reverse.map (·.text)], none)
  | _, [], some fault => ([], some fault)
  | taken, i :: rest, fault? =>
      let size (ws : List (List Char)) : Nat := ws.foldl (fun n w => n + w.length + 1) 0
      let command (is : List FedItem) : List (List Char) := program ++ is.reverse.map (·.text)
      let fits (is : List FedItem) : Bool := size (command is) ≤ l.chars
      let full (is : List FedItem) : Bool :=
        l.items?.any (· ≤ is.length) ||
          l.lines?.any fun n =>
            match is.getLast?, rest with
            | some first, next :: _ => first.line + n ≤ next.line
            | _, _ => false
      if ! fits [i] then ([], some "argument line too long".toList)
      else if ! fits (i :: taken) then
        if l.strict then ([], some "argument list too long".toList)
        else
          let (commands, fault?) :=
            if full [i] then
              let (commands, fault?) := fedCommands program l [] rest fault?
              (command [i] :: commands, fault?)
            else fedCommands program l [i] rest fault?
          (command taken :: commands, fault?)
      else if full (i :: taken) then
        let (commands, fault?) := fedCommands program l [] rest fault?
        (command (i :: taken) :: commands, fault?)
      else fedCommands program l (i :: taken) rest fault?

/-!
## Running them
-/

/-- Run commands one after the other as long as none forbids it; the status. -/
def runFed (launch : Launcher) (name : List Char) (shown : Bool) :
    List (List (List Char)) -> Nat -> Action Nat
  | [], status => return status
  | [] :: rest, status => runFed launch name shown rest status
  | (program :: words) :: rest, status => do
      if shown then
        modify fun s => s.write 2 (List.intercalate [' '] (program :: words) ++ ['\n'])
      match ← launch program words with
      | none =>
          let own := (← get).status
          if own = 255 then
            warn name (program ++ ": exited with status 255; aborting".toList)
            return 124
          else if 128 < own then
            warn name (program ++ ": terminated by signal ".toList ++ digits (own - 128))
            return 125
          else runFed launch name shown rest (if own = 0 then status else 123)
      | some e =>
          warn name (program ++ ": ".toList ++ reason e)
          return if e = .notFound then 127 else 126

def xargsOptions : Options :=
  (Options.of "0a:d:E:e::I:i::L:l::n:P:prs:tx"
    [("null", "0"), ("arg-file=", "a"), ("delimiter=", "d"), ("eof=?", "e"),
      ("replace=?", "i"), ("max-lines=?", "l"), ("max-args=", "n"), ("max-procs=", "P"),
      ("interactive", "p"), ("no-run-if-empty", "r"), ("max-chars=", "s"), ("verbose", "t"),
      ("exit", "x"), ("open-tty", "o")]).inFront

def xargsFault? (g : Given) : Option (List Char) :=
  ["n", "L", "l", "s", "P"].findSome? fun o =>
    match g.value? o with
    | none => none
    | some v =>
        let option := " for -".toList ++ o.toList ++ " option".toList
        match natural? v with
        | none => some ("invalid number \"".toList ++ v ++ ['"'] ++ option)
        | some 0 =>
            if o = "P" then none
            else some ("value 0".toList ++ option ++ " should be >= 1".toList)
        | some _ => none

def xargsText (g : Given) : Action (Except (List Char) (List Char)) := do
  match g.value? "a" with
  | some path => do
      match ← readPath path with
      | .ok text => return .ok text
      | .error e =>
          return .error ("Cannot open input file ".toList ++ inQuotes path ++ ": ".toList ++
            reason e)
  | none => return .ok (← readInput)

def xargsItems (g : Given) (wholeLines : Bool) (text : List Char) : Fed :=
  match g.last? ["0", "d"] with
  | some "0" => dividedFed (Char.ofNat 0) text
  | some _ =>
      let word := (g.value? "d").getD []
      match dividerOf? word with
      | some c => dividedFed c text
      | none =>
          { fault? := some ("Invalid input delimiter specification ".toList ++ word ++
              (": the delimiter must be either a single character or an escape sequence " ++
                "starting with \\.").toList) }
  | none =>
      let last? := (g.last? ["E", "e"]).bind g.value?
      readFed { wholeLines, last? } (text.length + 1) 0 none '\n' text

def xargsMark? (g : Given) : Option (List Char) :=
  let value (o : String) : List Char := (g.value? o).getD braces
  match g.last? ["n", "L", "l", "I", "i"] with
  | some "I" => some (value "I")
  | some "i" => some (value "i")
  | some "n" =>
      if g.value? "n" = some ['1'] then (g.last? ["I", "i"]).map value else none
  | _ => none

def xargsLimits (g : Given) : FedLimits :=
  let manner := g.last? ["n", "L", "l"]
  { items? := if manner = some "n" then (g.value? "n").bind natural? else none,
    lines? :=
      if manner = some "L" ∨ manner = some "l" then
        some (((manner.bind g.value?).bind natural?).getD 1)
      else none,
    chars := ((g.value? "s").bind natural?).getD 131072,
    strict := g.has "x" }

def xargsCommands (g : Given) (program : List (List Char)) (text : List Char) :
    List (List (List Char)) × Option (List Char) :=
  match xargsMark? g with
  | some mark =>
      let fed := xargsItems g true text
      let command (i : FedItem) : List (List Char) :=
        program.map fun w => substituted mark i.text (w.length + 1) w
      (fed.items.map command, fed.fault?)
  | none =>
      let fed := xargsItems g false text
      if fed.items.isEmpty ∧ fed.fault?.isNone ∧ ! g.has "r" then ([program], none)
      else fedCommands program (xargsLimits g) [] fed.items fed.fault?

def xargs : Tool := fun launch name words =>
  withOptions name 1 xargsOptions words fun g => do
    let program := if g.operands.isEmpty then ["echo".toList] else g.operands
    match xargsFault? g with
    | some fault => refuseUsage name 1 fault
    | none =>
        match ← xargsText g with
        | .error fault => refuse name 1 fault
        | .ok text =>
            let (commands, fault?) := xargsCommands g program text
            modify fun s => s.install 0 { target := .text, reads := true }
            let status ← runFed launch name (g.has "t") commands 0
            match fault? with
            | some fault => if status < 124 then refuse name 1 fault else answer status
            | none => answer status

end Tool
end Shell
end TraceAdapter
