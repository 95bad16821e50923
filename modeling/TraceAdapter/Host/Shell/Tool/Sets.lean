import TraceAdapter.Host.Shell.Tool.Lines

/-!
# Exchanging characters

Sets of characters are written with ranges, classes and repetitions; characters
of one are deleted, are exchanged for those of another, or are written only once
where they are repeated.
-/

namespace TraceAdapter
namespace Shell
namespace Tool

/-!
## Sets
-/

inductive SetPart where
  | chars (cs : List Char)
  | kind (name : List Char)
  | repeated (c : Char) (times? : Option Nat)
  deriving Repr

def allChars : List Char := (List.range 256).map Char.ofNat

def charKinds : List (String × (Char -> Bool)) :=
  [("alnum", Char.isAlphanum), ("alpha", Char.isAlpha), ("blank", isBlank),
    ("cntrl", fun c => c.toNat < 32 || c.toNat = 127), ("digit", Char.isDigit),
    ("graph", fun c => 32 < c.toNat && c.toNat < 127), ("lower", Char.isLower),
    ("print", fun c => 32 ≤ c.toNat && c.toNat < 127),
    ("punct", fun c => 32 < c.toNat && c.toNat < 127 && ! c.isAlphanum),
    ("space", isSpace), ("upper", Char.isUpper),
    ("xdigit", fun c => c.isDigit || "abcdefABCDEF".toList.contains c)]

def charsOfKind? (name : List Char) : Option (List Char) :=
  (charKinds.lookup (String.ofList name)).map fun has => allChars.filter has

/-- Read the character behind a backslash; whether it was the last of all. -/
def escapedChar (cs : List Char) : Char × List Char :=
  match cs with
  | [] => ('\\', [])
  | c :: rest =>
      let digits := (cs.take 3).takeWhile fun c => '0' ≤ c && c ≤ '7'
      let digits := if 255 < (Numeral.ofDigits? 8 digits).getD 0 then digits.take 2 else digits
      if ! digits.isEmpty then
        (Char.ofNat ((Numeral.ofDigits? 8 digits).getD 0), cs.drop digits.length)
      else
        match "abfnrtv".toList.findIdx? (· = c) with
        | some i => (("\x07\x08\x0c\n\r\t\x0b".toList[i]?).getD c, rest)
        | none => (c, rest)

/-- The characters of a written set, each with whether it was behind a
backslash. -/
def unescapeSet : Nat -> List Char -> List (Char × Bool)
  | 0, _ => []
  | _, [] => []
  | fuel + 1, '\\' :: cs =>
      let (c, rest) := escapedChar cs
      (c, true) :: unescapeSet fuel rest
  | fuel + 1, c :: cs => (c, false) :: unescapeSet fuel cs

def untilClosing (c : Char) : List (Char × Bool) ->
    Option (List Char × List (Char × Bool))
  | (d, false) :: (']', false) :: rest =>
      if d = c then some ([], rest)
      else (untilClosing c ((']', false) :: rest)).map fun (cs, rest) => (d :: cs, rest)
  | (d, _) :: rest => (untilClosing c rest).map fun (cs, rest) => (d :: cs, rest)
  | [] => none

/-- The count in a repetition and what follows the bracket: none when there is no
repetition. -/
def repetition? (cs : List (Char × Bool)) :
    Option (Except (List Char) (Option Nat) × List (Char × Bool)) :=
  let ds := (cs.takeWhile (·.1 ≠ ']')).map Prod.fst
  match cs.drop ds.length with
  | _ :: rest =>
      let base := if ds.head? = some '0' then 8 else 10
      if ds.isEmpty then some (.ok none, rest)
      else
        match Numeral.ofDigits? base ds with
        | some 0 => some (.ok none, rest)
        | some n => some (.ok (some n), rest)
        | none =>
            some
              (.error ("invalid repeat count ".toList ++ inQuotes ds ++
                " in [c*n] construct".toList), rest)
  | [] => none

/-- The parts of a written set, or what is wrong with it.  The fuel bounds their
number. -/
def setParts : Nat -> List (Char × Bool) -> Except (List Char) (List SetPart)
  | 0, _ => .ok []
  | _, [] => .ok []
  | fuel + 1, cs =>
      let plain : Except (List Char) (List SetPart) :=
        match cs with
        | (a, _) :: ('-', false) :: (b, _) :: rest =>
            if b < a then
              .error ("range-endpoints of '".toList ++ [a, '-', b] ++
                "' are in reverse collating sequence order".toList)
            else
              let between := allChars.filter fun c => a ≤ c && c ≤ b
              (setParts fuel rest).map (.chars between :: ·)
        | (a, _) :: rest => (setParts fuel rest).map (.chars [a] :: ·)
        | [] => .ok []
      match cs with
      | ('[', false) :: (':', false) :: rest =>
          match untilClosing ':' rest with
          | some (name, rest) =>
              if (charsOfKind? name).isSome then
                (setParts fuel rest).map (.kind name :: ·)
              else .error ("invalid character class ".toList ++ inQuotes name)
          | none => plain
      | ('[', false) :: ('=', false) :: rest =>
          match untilClosing '=' rest with
          | some ([c], rest) => (setParts fuel rest).map (.chars [c] :: ·)
          | some ([], _) =>
              .error "missing equivalence class character '[==]'".toList
          | some (cs, _) =>
              .error (cs ++ ": equivalence class operand must be a single character".toList)
          | none => plain
      | ('[', false) :: (c, _) :: ('*', false) :: rest =>
          match repetition? rest with
          | some (.ok times?, rest) => (setParts fuel rest).map (.repeated c times? :: ·)
          | some (.error text, _) => .error text
          | none => plain
      | _ => plain

def readSet (w : List Char) : Except (List Char) (List SetPart) :=
  setParts (w.length + 1) (unescapeSet (w.length + 1) w)

/-- The characters of a part; one that is repeated as needed fills a gap. -/
def SetPart.expand (gap : Nat) : SetPart -> List Char
  | chars cs => cs
  | kind name => (charsOfKind? name).getD []
  | repeated c times? => List.replicate (times?.getD gap) c

def expandSet (length : Nat) (parts : List SetPart) : List Char :=
  let known := (parts.flatMap (SetPart.expand 0)).length
  parts.flatMap (SetPart.expand (length - known))

def SetPart.isCase : SetPart -> Bool
  | kind name => ["lower", "upper"].contains (String.ofList name)
  | _ => false

def SetPart.isKind : SetPart -> Bool
  | kind _ => true
  | _ => false

def SetPart.isOpen : SetPart -> Bool
  | repeated _ none => true
  | _ => false

def casePlaces (parts : List SetPart) : List Nat :=
  let step (r : Nat × List Nat) (p : SetPart) : Nat × List Nat :=
    (r.1 + (p.expand 0).length, if p.isCase then r.1 :: r.2 else r.2)
  (parts.foldl step (0, [])).2

/-!
## Exchanging
-/

def squeeze (has : Char -> Bool) : List Char -> List Char
  | c :: d :: rest =>
      if c = d ∧ has c then squeeze has (d :: rest) else c :: squeeze has (d :: rest)
  | cs => cs

def exchanges (complement truncates : Bool) (first second : List SetPart) :
    Except (List Char) (List (Char × Char)) :=
  let source :=
    let cs := expandSet 0 first
    if complement then allChars.filter fun c => ! cs.contains c else cs
  let target := expandSet source.length second
  let source := if truncates then source.take target.length else source
  if first.any SetPart.isOpen || first.any fun p => p matches .repeated .. then
    .error "the [c*] repeat construct may not appear in string1".toList
  else if 1 < (second.filter SetPart.isOpen).length then
    .error "only one [c*] repeat construct may appear in string2".toList
  else if second.any fun p => p.isKind && ! p.isCase then
    .error ("when translating, the only character classes that may appear in\n" ++
      "string2 are 'upper' and 'lower'").toList
  else if complement ∧ first.any SetPart.isKind ∧ 1 < target.eraseDups.length then
    .error ("when translating with complemented character classes,\n" ++
      "string2 must map all characters in the domain to one").toList
  else if (casePlaces second).any fun n => ! (casePlaces first).contains n then
    .error "misaligned [:upper:] and/or [:lower:] construct".toList
  else
    match target.getLast? with
    | none =>
        if source.isEmpty then .ok []
        else .error "when not truncating set1, string2 must be non-empty".toList
    | some last =>
        .ok (source.zip (target ++ List.replicate (source.length - target.length) last))

def exchange (pairs : List (Char × Char)) (c : Char) : Char :=
  ((pairs.reverse.lookup c)).getD c

def trOptions : Options :=
  (Options.of "cCdst"
    [("complement", "c"), ("delete", "d"), ("squeeze-repeats", "s"),
      ("truncate-set1", "t")]).inFront

def refuseSets (name : List Char) (heading detail : List Char) : Action Unit := do
  warn name heading
  if ! detail.isEmpty then modify fun s => s.write 2 (detail ++ ['\n'])
  refuseUsage name 1 []

def tr : Tool := fun _ name words =>
  withOptions name 1 trOptions words fun g => do
    let deletes := g.has "d"
    let squeezes := g.has "s"
    let complement := g.has "c" || g.has "C"
    let least := if deletes = squeezes then 2 else 1
    let most := if deletes ∧ ! squeezes then 1 else 2
    let two : String :=
      if squeezes then "Two strings must be given when both deleting and squeezing repeats."
      else "Two strings must be given when translating."
    match g.operands with
    | [] => missingOperand name none
    | first :: rest =>
        if g.operands.length < least then
          refuseSets name ("missing operand after ".toList ++ inQuotes first) two.toList
        else if most < g.operands.length then
          let only := "Only one string may be given when deleting without squeezing repeats."
          refuseSets name
            ("extra operand ".toList ++ inQuotes ((g.operands[most]?).getD []))
            (if g.operands.length = 2 then only.toList else [])
        else
          let second := rest.headD []
          match readSet first, readSet second with
          | .error text, _ => refuse name 1 text
          | _, .error text => refuse name 1 text
          | .ok first, .ok second =>
              let source := expandSet 0 first
              let isSource (c : Char) : Bool := source.contains c != complement
              let isTarget (c : Char) : Bool := (expandSet 0 second).contains c
              if deletes then
                let text ← readInput
                let kept := text.filter fun c => ! isSource c
                finish name 0 1 (if squeezes then squeeze isTarget kept else kept)
              else if rest.isEmpty then
                finish name 0 1 (squeeze isSource (← readInput))
              else
                match exchanges complement (g.has "t") first second with
                | .error text => refuse name 1 text
                | .ok pairs =>
                    let table := allChars.map (exchange pairs)
                    let text := (← readInput).map fun c => (table[c.toNat]?).getD c
                    let isTarget (c : Char) : Bool := (pairs.map Prod.snd).contains c
                    finish name 0 1 (if squeezes then squeeze isTarget text else text)

end Tool
end Shell
end TraceAdapter
