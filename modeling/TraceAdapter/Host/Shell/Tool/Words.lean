import TraceAdapter.Host.Shell.Tool.Surroundings

/-!
# Tools on words

Tools that need nothing but their words.
-/

namespace TraceAdapter
namespace Shell
namespace Tool

/-- A name without an ending, unless it is nothing else. -/
def withoutEnding (ending cs : List Char) : List Char :=
  if ending ≠ cs ∧ ending.isSuffixOf cs then cs.take (cs.length - ending.length) else cs

def basename : Tool := fun _ name words =>
  withOptions name 1
    (Options.of "as:z" [("multiple", "a"), ("suffix=", "s"), ("zero", "z")]).inFront words
    fun g =>
      let ending := [if g.has "z" then Char.ofNat 0 else '\n']
      let several := g.has "a" || g.has "s"
      match g.operands with
      | [] => missingOperand name none
      | w :: rest =>
          if several then
            finish name 0 1 (g.operands.flatMap fun w =>
              withoutEnding ((g.value? "s").getD []) (lastPart w) ++ ending)
          else
            match rest with
            | [] => finish name 0 1 (lastPart w ++ ending)
            | [cut] => finish name 0 1 (withoutEnding cut (lastPart w) ++ ending)
            | _ :: other :: _ => extraOperand name other

def dirname : Tool := fun _ name words =>
  withOptions name 1 (Options.of "z" [("zero", "z")]).inFront words fun g =>
    let ending := [if g.has "z" then Char.ofNat 0 else '\n']
    if g.operands.isEmpty then missingOperand name none
    else finish name 0 1 (g.operands.flatMap fun w => frontPart w ++ ending)

def yes : Tool := fun _ name words =>
  withOptions name 1 (Options.of "" []).inFront words fun g => do
    let line :=
      (if g.operands.isEmpty then ['y'] else List.intercalate [' '] g.operands) ++ ['\n']
    let s ← get
    match s.writeFault? 1 with
    | some e => refuse name 1 ("standard output: ".toList ++ reason e)
    | none =>
        emit (List.replicate (s.patience / line.length + 1) line).flatten
        let s ← get
        if s.goesOn ∧ s.deadline?.isSome then
          set { s with
            files := { s.files with clock := s.deadline?.getD s.files.clock }, expired := true }

/-- The characters of a text with escapes, up to one that ends all.  The fuel bounds
the length. -/
def unescaped : Nat -> List Char -> List Char × Bool
  | 0, _ => ([], false)
  | _, [] => ([], false)
  | fuel + 1, '\\' :: cs =>
      let onto (front : List Char) (rest : List Char) : List Char × Bool :=
        let (more, stops) := unescaped fuel rest
        (front ++ more, stops)
      let octal (most : Nat) (cs : List Char) : List Char × Bool :=
        let ds := (cs.take most).takeWhile Item.Reading.isOctal
        onto [Char.ofNat ((Numeral.ofDigits? 8 ds).getD 0 % 256)] (cs.drop ds.length)
      match cs with
      | [] => (['\\'], false)
      | 'c' :: _ => ([], true)
      | '0' :: rest => octal 3 rest
      | 'x' :: rest =>
          let ds := (rest.take 2).takeWhile fun c => (Numeral.digit? 16 c).isSome
          if ds.isEmpty then onto ['\\', 'x'] rest
          else onto [Char.ofNat ((Numeral.ofDigits? 16 ds).getD 0)] (rest.drop ds.length)
      | c :: rest =>
          if Item.Reading.isOctal c then octal 3 cs
          else
            match Item.Reading.letters.lookup c with
            | some d => onto [d] rest
            | none => onto ['\\', c] rest
  | fuel + 1, c :: cs =>
      let (more, stops) := unescaped fuel cs
      (c :: more, stops)

/-- The options of `echo` in front of words, as whether the line is ended and escapes
are read, and the other words. -/
def echoOptions (ends escapes : Bool) : List (List Char) -> Bool × Bool × List (List Char)
  | [] => (ends, escapes, [])
  | w :: ws =>
      match w with
      | '-' :: c :: cs =>
          let letters := c :: cs
          if letters.all fun c => c = 'n' || c = 'e' || c = 'E' then
            let escapes := letters.foldl
              (fun e c => if c = 'e' then true else if c = 'E' then false else e) escapes
            echoOptions (ends && ! letters.contains 'n') escapes ws
          else (ends, escapes, w :: ws)
      | _ => (ends, escapes, w :: ws)

def echo : Tool := fun _ name words =>
  let (ends, escapes, words) := echoOptions true false words
  let text := List.intercalate [' '] words
  let ending := if ends then ['\n'] else []
  if escapes then
    let (text, stops) := unescaped (text.length + 1) text
    finish name 0 1 (text ++ (if stops then [] else ending))
  else finish name 0 1 (text ++ ending)

def formatFault : FormatFault -> List Char
  | .noNumber w => inQuotes w ++ ": expected a numeric value".toList
  | .notOnlyNumber w => inQuotes w ++ ": value not completely converted".toList
  | .tooLarge w => inQuotes w ++ ": Numerical result out of range".toList
  | .badDirective text => '%' :: text ++ ": invalid conversion specification".toList
  | .noLetter text => '%' :: text ++ ": invalid conversion specification".toList

def printf : Tool := fun _ name words => do
  let words := if words.head? = some ['-', '-'] then words.tail else words
  match words with
  | [] => missingOperand name none
  | format :: words =>
      let rec plainQuotes : List Char -> List Char
        | '\\' :: '"' :: cs => '"' :: plainQuotes cs
        | '\\' :: c :: cs => '\\' :: c :: plainQuotes cs
        | c :: cs => c :: plainQuotes cs
        | [] => []
      let p := Shell.printf (plainQuotes format) words
      for fault in p.faults do warn name (formatFault fault)
      if ! p.stopped ∧ ! p.words.isEmpty then
        warn name ("warning: ignoring excess arguments, starting with ".toList ++
          inQuotes (p.words.headD []))
      finish name (min p.status 1) 1 p.output

def test : Tool := fun _ name words => do
  let bracketed := lastPart name = ['[']
  if bracketed ∧ words.getLast? ≠ some [']'] then refuse name 2 "missing ']'".toList
  else
    let words := if bracketed then words.dropLast else words
    match Condition.holds (← get).files (words.map State.path) with
    | .ok holds => answer (if holds then 0 else 1)
    | .error text => refuse name 2 (Bytes.toChars (Utf8.encode text))

def pwd : Tool := fun _ name words =>
  withOptions name 1 (.of "LP" [("logical", "L"), ("physical", "P")]) words fun g => do
    let s ← get
    let text := if g.last? ["L", "P"] = some "L" then s.directory else
      Builtin.pathOfPlace s.files.here
    finish name 0 1 (text ++ ['\n'])

def kill : Tool := fun _ _ words => Builtin.kill words

end Tool
end Shell
end TraceAdapter
