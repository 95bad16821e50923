import TraceAdapter.Host.Shell.Answer

/-!
# Control of the shell

The commands that end the shell or leave a part of it, and those that set its
options and arguments.
-/

namespace TraceAdapter
namespace Shell
namespace Builtin

def exit (words : List (List Char)) : Action Unit := do
  count "exit" (← get).status words fun n => modify fun s => s.exit n

def back (words : List (List Char)) : Action Unit := do
  count "return" (← get).status words fun n =>
    modify fun s => { s with status := n, flow := .back }

def jump (command : String) (flow : Nat -> Flow) (words : List (List Char)) :
    Action Unit :=
  count command 1 words fun n => do
    if n = 0 then abort command "Illegal number: 0".toList
    else
      answer 0
      modify fun s => if s.loops = 0 then s else { s with flow := flow (min n s.loops) }

/-!
## Arguments and options
-/

def longOptions : List (String × Char) :=
  [("errexit", 'e'), ("noglob", 'f'), ("ignoreeof", 'I'), ("interactive", 'i'),
    ("monitor", 'm'), ("noexec", 'n'), ("stdin", 's'), ("xtrace", 'x'),
    ("verbose", 'v'), ("vi", 'V'), ("emacs", 'E'), ("noclobber", 'C'),
    ("allexport", 'a'), ("notify", 'b'), ("nounset", 'u')]

/-- Turn options on or off by their letters; the first letter that is none. -/
def setOptions (on : Bool) (letters : List Char) (s : State) : State × Option Char :=
  letters.foldl
    (fun (s, fault?) c =>
      if fault?.isSome then (s, fault?)
      else if (longOptions.map Prod.snd).contains c then
        let others := s.options.filter (· ≠ c)
        ({ s with options := if on then c :: others else others }, none)
      else (s, some c))
    (s, none)

/-- Read options in front of words: what is left and whether two dashes ended
them, or the option that is none. -/
def readOptions : List (List Char) -> State ->
    Except (List Char) (State × List (List Char) × Bool)
  | ['-', '-'] :: words, s => .ok (s, words, true)
  | ['-'] :: words, s => .ok (s, words, false)
  | [sign, 'o'] :: name :: words, s =>
      if sign = '-' ∨ sign = '+' then
        match longOptions.lookup (String.ofList name) with
        | some c => readOptions words (setOptions (sign = '-') [c] s).1
        | none => .error (sign :: 'o' :: ' ' :: name)
      else .ok (s, [sign, 'o'] :: name :: words, false)
  | (sign :: c :: cs) :: words, s =>
      if sign = '-' ∨ sign = '+' then
        match setOptions (sign = '-') (c :: cs) s with
        | (_, some fault) => .error [sign, fault]
        | (s, none) => readOptions words s
      else .ok (s, (sign :: c :: cs) :: words, false)
  | words, s => .ok (s, words, false)

def showOptions (commands : Bool) : Action Unit := do
  let s ← get
  let lines := (longOptions ++ [("nolog", '?'), ("debug", '?')]).map fun (name, c) =>
    if commands then
      "set ".toList ++ [if s.has c then '-' else '+'] ++ "o ".toList ++ name.toList
    else
      name.toList ++ List.replicate (16 - name.length) ' ' ++
        (if s.has c then "on" else "off").toList
  let heading := if commands then [] else "Current option settings\n".toList
  print "set" (heading ++ lines.flatMap (· ++ ['\n']))

def setArguments (words : List (List Char)) (s : State) : State :=
  { s with arguments := words, scanned := (1, none) }

def configure (words : List (List Char)) : Action Unit := do
  match words with
  | [] =>
      let s ← get
      let sorted := s.bindings.mergeSort fun a b => Bytes.notAfter a.1 b.1
      print "set" (sorted.flatMap fun b => b.1 ++ '=' :: quoted b.2 ++ ['\n'])
  | [['-', 'o']] => showOptions false
  | [['+', 'o']] => showOptions true
  | _ =>
      match readOptions words (← get) with
      | .error option => abort "set" ("Illegal option ".toList ++ option)
      | .ok (s, left, ended) =>
          set { s with status := 0 }
          if s.has 'm' then
            modify fun s =>
              { s.complainOf "set".toList "can't access tty; job control turned off".toList with
                options := s.options.filter (· ≠ 'm') }
          if ended || ! left.isEmpty then modify (setArguments left)

def shift (words : List (List Char)) : Action Unit :=
  count "shift" 1 words fun n => do
    if (← get).arguments.length < n then
      abort "shift" "can't shift that many".toList
    else modify fun s => { setArguments (s.arguments.drop n) s with status := 0 }

/-!
## Options among words
-/

structure Scan where
  /-- The letter that was found, none at the end. -/
  found? : Option Char
  value? : Option (List Char) := none
  complaint : List Char := []
  scanned : Nat × Option Nat

def optionOf? (letters : List Char) (c : Char) : Option Bool :=
  match letters with
  | [] => none
  | d :: rest =>
      let takes := rest.head? = some ':'
      if d = c then some takes else optionOf? (if takes then rest.tail else rest) c
termination_by letters.length
decreasing_by
  apply Nat.lt_succ_of_le
  split
  · rw [List.length_tail]
    exact Nat.sub_le _ _
  · exact Nat.le_refl _

def scan (letters : List Char) (words : List (List Char)) (scanned : Nat × Option Nat) :
    Scan :=
  let quiet := letters.head? = some ':'
  let (index, offset?) := scanned
  let inside : List Char :=
    match offset? with
    | some offset => ((words[index - 2]?).getD []).drop offset
    | none => []
  let read (cs : List Char) (index : Nat) : Scan :=
    match cs with
    | [] => { found? := none, scanned := (index, none) }
    | c :: cs =>
        let word := (words[index - 2]?).getD []
        let next : Nat × Option Nat :=
          (index, some (word.length - cs.length))
        match optionOf? letters c with
        | none =>
            { found? := some '?', value? := if quiet then some [c] else none
              complaint := if quiet then [] else "Illegal option -".toList ++ [c, '\n']
              scanned := next }
        | some false => { found? := some c, value? := some [], scanned := next }
        | some true =>
            if ! cs.isEmpty then
              { found? := some c, value? := some cs, scanned := (index, none) }
            else
              match words[index - 1]? with
              | some w => { found? := some c, value? := some w, scanned := (index + 1, none) }
              | none =>
                  { found? := some (if quiet then ':' else '?')
                    value? := if quiet then some [c] else none
                    complaint :=
                      if quiet then []
                      else "No arg for -".toList ++ [c] ++ " option\n".toList
                    scanned := next }
  if ! inside.isEmpty then read inside index
  else
    match words[index - 1]? with
    | some ['-', '-'] => { found? := none, scanned := (index + 1, none) }
    | some ('-' :: c :: cs) => read (c :: cs) (index + 1)
    | _ => { found? := none, scanned := (index, none) }

def nextOption : List (List Char) -> Action Unit
  | letters :: name :: words => do
      let s ← get
      let given := if words.isEmpty then s.arguments else words
      let start := if given.length + 1 < s.scanned.1 then (1, none) else s.scanned
      let next := scan letters given start
      modify fun s => s.write 2 next.complaint
      let isEnd := next.found?.isNone
      if ! isEnd then
        modify fun s =>
          match next.value? with
          | some value => s.put "OPTARG".toList value
          | none => s.unbind "OPTARG".toList
      modify fun s => s.put "OPTIND".toList (digits next.scanned.1)
      modify fun s => s.bind name [next.found?.getD '?']
      modify fun s => { s with scanned := next.scanned, status := if isEnd then 1 else 0 }
  | _ => refuse "getopts" 2 "Usage: getopts optstring var [arg...]".toList

end Builtin
end Shell
end TraceAdapter
